/-! # Names of characters in one word

The names that no other name goes on from, in increasing order, with blanks between them.
-/

namespace Polyglot.CharacterName

/-- The names of one word that begins no other name. -/
def lone : String :=
  "ABACUS ACCORDION ACK ACKNOWLEDGE ADMETOS ADULT AKTIESELSKAB ALEMBIC ALERT ALM AMBULANCE
    AMPERSAND AMPHORA ANCHOR ANKH ANT APC APOLLON APOSTROPHE AQUARIUS ARC ARIES ASSERTION
    ASTERISM ASTRAEA AUBERGINE AUTOMOBILE AVOCADO AXE BACKSPACE BACON BADGER BAGEL BALLOON BANANA
    BANJO BANK BASEBALL BASKET BAT BATH BATHTUB BATTERY BEANS BEAVER BECAUSE BED BEETLE BEL
    BETWEEN BICYCLE BICYCLIST BIKINI BILLIARDS BIRD BISON BLOSSOM BLOWFISH BLUEBERRIES BOAR BOM
    BOMB BONE BOOK BOOKS BOOMERANG BOWLING BOY BPH BRAIN BREAD BREAST-FEEDING BREVE BRICK
    BRIEFCASE BRIEFS BROCCOLI BROOM BS BUBBLES BUCKET BUG BULLSEYE BURRITO BUTTER BUTTERFLY
    CACTUS CADUCEUS CALENDAR CAMPING CAN CANCER CANDLE CANDY CANOE CAPITULUM CAPRICORN CARON
    CARROT CASTLE CCH CEDILLA CERES CGJ CHAINS CHAIR CHERRIES CHESTNUT CHICKEN CHILD CHIPMUNK
    CHIRON CHOPSTICKS CHURCH CINEMA CLIPBOARD COAT COCKROACH COCONUT COFFIN COIN COMET COMMA
    COMPASS COMPLEMENT COMPRESSION CONJUNCTION COOKIE COOKING CORAL COUNTERBORE COUNTERSINK CR
    CRAB CROCODILE CROISSANT CROWN CRUTCH CSI CUCUMBER CUPCAKE CUPIDO CUSTARD CUSTOMS CYCLONE
    CYLINDRICITY DANCER DANGO DC1 DC2 DC3 DC4 DCS DEER DEL DELETE DIAERESIS DIVIDES DLE DODO
    DOLPHIN DOOR DOUGHNUT DRESS DROPLET DUCK DUMPLING DVD EAGLE EGG ELEPHANT ELEVATOR ELF ENQ
    ENQUIRY EOL EOM EOT EPA ESA ESC ESCAPE ESTIMATES ETB ETX EXCESS EYE EYEGLASSES EYES FACTORY
    FAIRY FALAFEL FAMILY FEATHER FENCER FERRY FF FIRECRACKER FIREWORKS FISHEYE FLAMINGO FLATBREAD
    FLATNESS FLEUR-DE-LIS FLY FOG FOGGY FOLDER FONDUE FOOT FOOTPRINTS FORCES FORKING FOUNTAIN
    FROWN FS FSI FUSE FVS1 FVS2 FVS3 FVS4 GARLIC GEMINI GENIE GHOST GIRL GLOVES GOAT GOGGLES
    GOLFER GORILLA GRAPES GS GUARDSMAN GUITAR HADES HAIRCUT HAMBURGER HAMSA HANDBAG HANDBALL
    HANDSHAKE HEADPHONE HEDGEHOG HELICOPTER HERB HIBISCUS HIPPOPOTAMUS HOCHO HOLE HOMOTHETIC
    HONEYBEE HOOK HOP HOSPITAL HOTEL HT HTJ HTS HUT HYGIEA HYPHEN-MINUS HYPODIASTOLE IMP
    INCREMENT IND INTERCALATE INTERROBANG JACK-O-LANTERN JAR JEANS JOIN JOYSTICK JUGGLING JUNO
    JUPITER KAABA KANGAROO KEY KIMONO KITE KIWIFRUIT KNOT KOALA KRONOS LABEL LADDER LEDGER LEG
    LEMON LEO LEOPARD LF LIBRA LIPS LIPSTICK LIZARD LLAMA LOBSTER LOLLIPOP LOTUS LRE LRI LRM LRO
    LUGGAGE LUNGS MACRON MAGE MAGNET MAMMOTH MANGO MAXIMIZE MELON MEMO MERCURY MERPERSON METRO
    MICROBE MICROPHONE MICROSCOPE MINIBUS MINIDISC MINIMIZE MINY MMSP MODELS MONORAIL MOSQUE
    MOSQUITO MOTORWAY MOUTH MOYAI MULTIMAP MUSHROOM MVS MW NABLA NAK NAND NBH NBSP NECKTIE NEL
    NESSUS NEUTER NEWSPAPER NINJA NL NNBSP NONFORKING NOR NOSE NUL NULL OCTOPUS ODEN OGONEK OLIVE
    ONION OPHIUCHUS OPPOSITION ORANGUTAN OSC OTTER OVERLAP OVERLINE OWL OX OYSTER PACKAGE PAD
    PAGER PAGES PAGODA PALLAS PANCAKES PAPERCLIP PARACHUTE PARAGRAPHOS PARROT PDF PDI PEACH
    PEACOCK PEANUTS PEAR PEDESTRIAN PENCIL PENGUIN PENTAGRAM PERSPECTIVE PHOLUS PICK PIE PILL
    PINATA PINEAPPLE PISCES PISTOL PLACARD PLD PLU PLUNGER PM POODLE POPCORN POSEIDON POSTBOX
    POTATO POUCH PRETZEL PRIME PRINCE PRINCESS PROJECTIVE PROPORTION PROSERPINA PU1 PU2 PURSE
    PUSHPIN QUINCUNX RACCOON RAIN RAINBOW RAM RAT RATIO RAZOR RECEIPT RESPONSE RESTROOM
    RHINOCEROS RI RIFLE RLE RLI RLM RLO ROCK ROCKET ROOSTER ROSE ROSETTE ROWBOAT RS RULE-DELAYED
    RUNNER SAGITTARIUS SAILBOAT SALTIRE SANDWICH SARI SATURN SAUROPOD SAXOPHONE SCALES SCARF SCI
    SCOOTER SCORPION SCORPIUS SCREEN SCREWDRIVER SCROLL SCRUPLE SEAL SEAT SECTOR SEDNA SEEDLING
    SEGMENT SELFIE SEMICOLON SEMISEXTILE SESQUIQUADRATE SEXTILE SGC SHAMROCK SHARK SHEEP SHIELD
    SHIP SHORTCAKE SHORTS SHOWER SHRIMP SHRUG SHY SI SINGLE-SHIFT-2 SINGLE-SHIFT-3 SKATEBOARD
    SKIER SKUNK SLED SLOPE SLOTH SMILE SNAIL SNAKE SNOWBOARDER SNOWFLAKE SO SOCKS SOFTBALL SOH
    SOS SP SPA SPACE SPAGHETTI SPARKLE SPARKLES SPEEDBOAT SPONGE SPOON SQUID SS2 SS3 SSA ST
    STADIUM STATION STETHOSCOPE STOPWATCH STRAIGHTNESS STRAWBERRY STS STUPA STX SUB SUBSTITUTE
    SUNFLOWER SUPERHERO SUPERVILLAIN SURFER SUSHI SWAN SWIMMER SYMMETRY SYN SYNAGOGUE SYRINGE
    T-REX T-SHIRT TAB TACO TAMALE TANGERINE TAURUS TAXI TEAPOT TELESCOPE TELEVISION TENT
    THEREFORE THERMODYNAMIC THERMOMETER THUNDERSTORM TICKET TOILET TOMATO TONGUE TOOLBOX TOOTH
    TOOTHBRUSH TRACKBALL TRACTOR TRAIN TRANSPLUTO TRICOLON TROLL TROLLEYBUS TROPHY TRUMPET TULIP
    TURKEY TURTLE UNDERTIE URANUS US VAMPIRE VERSICLE VESTA VIDEOCASSETTE VIOLIN VIRGO VOLCANO
    VOLLEYBALL VS1 VS10 VS100 VS101 VS102 VS103 VS104 VS105 VS106 VS107 VS108 VS109 VS11 VS110
    VS111 VS112 VS113 VS114 VS115 VS116 VS117 VS118 VS119 VS12 VS120 VS121 VS122 VS123 VS124
    VS125 VS126 VS127 VS128 VS129 VS13 VS130 VS131 VS132 VS133 VS134 VS135 VS136 VS137 VS138
    VS139 VS14 VS140 VS141 VS142 VS143 VS144 VS145 VS146 VS147 VS148 VS149 VS15 VS150 VS151 VS152
    VS153 VS154 VS155 VS156 VS157 VS158 VS159 VS16 VS160 VS161 VS162 VS163 VS164 VS165 VS166
    VS167 VS168 VS169 VS17 VS170 VS171 VS172 VS173 VS174 VS175 VS176 VS177 VS178 VS179 VS18 VS180
    VS181 VS182 VS183 VS184 VS185 VS186 VS187 VS188 VS189 VS19 VS190 VS191 VS192 VS193 VS194
    VS195 VS196 VS197 VS198 VS199 VS2 VS20 VS200 VS201 VS202 VS203 VS204 VS205 VS206 VS207 VS208
    VS209 VS21 VS210 VS211 VS212 VS213 VS214 VS215 VS216 VS217 VS218 VS219 VS22 VS220 VS221 VS222
    VS223 VS224 VS225 VS226 VS227 VS228 VS229 VS23 VS230 VS231 VS232 VS233 VS234 VS235 VS236
    VS237 VS238 VS239 VS24 VS240 VS241 VS242 VS243 VS244 VS245 VS246 VS247 VS248 VS249 VS25 VS250
    VS251 VS252 VS253 VS254 VS255 VS256 VS26 VS27 VS28 VS29 VS3 VS30 VS31 VS32 VS33 VS34 VS35
    VS36 VS37 VS38 VS39 VS4 VS40 VS41 VS42 VS43 VS44 VS45 VS46 VS47 VS48 VS49 VS5 VS50 VS51 VS52
    VS53 VS54 VS55 VS56 VS57 VS58 VS59 VS6 VS60 VS61 VS62 VS63 VS64 VS65 VS66 VS67 VS68 VS69 VS7
    VS70 VS71 VS72 VS73 VS74 VS75 VS76 VS77 VS78 VS79 VS8 VS80 VS81 VS82 VS83 VS84 VS85 VS86 VS87
    VS88 VS89 VS9 VS90 VS91 VS92 VS93 VS94 VS95 VS96 VS97 VS98 VS99 VT VTS VULCANUS WAFFLE
    WASTEBASKET WATCH WATERMELON WEDDING WHALE WINDOW WJ WOOD WORM WRENCH WRESTLERS X-RAY XOR
    YO-YO ZEUS ZOMBIE ZWJ ZWNBSP ZWNJ ZWSP"

end Polyglot.CharacterName

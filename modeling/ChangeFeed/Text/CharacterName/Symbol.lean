/-!
The names of signs, punctuation, arrows, pictographs and control characters.

An entry holds the words that some names start with, and how they go on, with semicolons between;
the first entry holds names that share no words with others.
-/

namespace ChangeFeed.Text.CharacterName

/-- The names of characters that are no letters. -/
def symbols : List (String × String) := [
  ("",
    "ABACUS; ACCOUNT OF; ACTIVATE ARABIC FORM SHAPING; ACTIVATE SYMMETRIC SWAPPING; ACUTE ACCENT;
     ADDRESSED TO THE SUBJECT; ADI SHAKTI; ADMISSION TICKETS; ADULT; AERIAL TRAMWAY; AIRPLANE;
     AIRPLANE ARRIVING; AIRPLANE DEPARTURE; AKTIESELSKAB; ALEF SYMBOL; ALEMBIC; ALIEN MONSTER;
     ALL AROUND-PROFILE; ALL EQUAL TO; ALMOST EQUAL OR EQUAL TO; ALMOST EQUAL TO;
     ALTERNATE ONE-WAY LEFT WAY TRAFFIC; AMBULANCE; AMERICAN FOOTBALL; AMPERSAND; AMPHORA; ANCHOR;
     ANGER SYMBOL; ANGLE; ANGRY FACE; ANGSTROM SIGN; ANGUISHED FACE; ANKH; ANT; ANTENNA WITH BARS;
     ANTICLOCKWISE CONTOUR INTEGRAL; ANTICLOCKWISE DOWNWARDS AND UPWARDS OPEN CIRCLE ARROWS;
     ANTICLOCKWISE OPEN CIRCLE ARROW; ANTICLOCKWISE TOP SEMICIRCLE ARROW; APOSTROPHE;
     APPROACHES THE LIMIT; APPROXIMATELY BUT NOT ACTUALLY EQUAL TO; APPROXIMATELY EQUAL TO;
     APPROXIMATELY EQUAL TO OR THE IMAGE OF; AQUARIUS; ARC; ARIES; ARTICULATED LORRY;
     ARTIST PALETTE; ASCENDING NODE; ASSERTION; ASTERISK; ASTERISK OPERATOR; ASTERISM;
     ASTONISHED FACE; ASTRONOMICAL SYMBOL FOR URANUS; ASYMPTOTICALLY EQUAL TO; ATHLETIC SHOE;
     ATOM SYMBOL; AUBERGINE; AUSTRAL SIGN; AUTO RICKSHAW; AUTOMATED TELLER MACHINE; AUTOMOBILE;
     AVOCADO; BABY; BABY ANGEL; BABY BOTTLE; BABY CHICK; BABY SYMBOL; BACK OF ENVELOPE;
     BACK WITH LEFTWARDS ARROW ABOVE; BACK-TILTED SHADOWED WHITE RIGHTWARDS ARROW; BACON;
     BACTRIAN CAMEL; BADGER; BADMINTON RACQUET AND SHUTTLECOCK; BAGEL; BAGGAGE CLAIM;
     BAGUETTE BREAD; BALL OF YARN; BALLOON; BALLOON-SPOKED ASTERISK; BANANA; BANK;
     BANKNOTE WITH DOLLAR SIGN; BANKNOTE WITH EURO SIGN; BANKNOTE WITH POUND SIGN;
     BANKNOTE WITH YEN SIGN; BAR CHART; BAR OF SOAP; BARBER POLE; BASEBALL; BASKET;
     BASKETBALL AND HOOP; BAT; BATH; BATHTUB; BATTERY; BEACH WITH UMBRELLA;
     BEAMED ASCENDING MUSICAL NOTES; BEAMED DESCENDING MUSICAL NOTES; BEAMED EIGHTH NOTES;
     BEAMED SIXTEENTH NOTES; BEAR FACE; BEARDED PERSON; BEATING HEART; BEAVER; BECAUSE; BED;
     BEER MUG; BELL; BELL WITH CANCELLATION STROKE; BELLHOP BELL; BENTO BOX; BENZENE RING;
     BET SYMBOL; BETWEEN; BEVERAGE BOX; BICYCLE; BICYCLIST; BIKINI; BILLED CAP; BILLIARDS;
     BIOHAZARD SIGN; BIRD; BIRTHDAY CAKE; BISON; BITCOIN SIGN; BLACK-FEATHERED NORTH EAST ARROW;
     BLACK-FEATHERED RIGHTWARDS ARROW; BLACK-FEATHERED SOUTH EAST ARROW; BLACK-LETTER CAPITAL C;
     BLACK-LETTER CAPITAL H; BLACK-LETTER CAPITAL I; BLACK-LETTER CAPITAL R;
     BLACK-LETTER CAPITAL Z; BLOSSOM; BLOWFISH; BLUE BOOK; BLUE HEART; BOAR; BOMB; BONE; BOOK;
     BOOKMARK; BOOKMARK TABS; BOOKS; BOTTLE WITH POPPING CORK; BOTTOM HALF INTEGRAL;
     BOTTOM LEFT CORNER; BOTTOM LEFT CROP; BOTTOM RIGHT CORNER; BOTTOM RIGHT CROP; BOUQUET;
     BOUQUET OF FLOWERS; BOW AND ARROW; BOWL OF HYGIEIA; BOWL WITH SPOON; BOWLING; BOWTIE;
     BOXING GLOVE; BOY; BOYS SYMBOL; BRAIN; BREAD; BREAST-FEEDING; BREVE; BRICK; BRIDE WITH VEIL;
     BRIDGE AT NIGHT; BRIEFCASE; BROCCOLI; BROKEN BAR; BROKEN HEART; BROOM; BROWN HEART;
     BUBBLE TEA; BUG; BUILDING CONSTRUCTION; BULLET; BULLET OPERATOR; BULLHORN;
     BULLHORN WITH SOUND WAVES; BULLSEYE; BURRITO; BUS; BUS STOP; BUST IN SILHOUETTE;
     BUSTS IN SILHOUETTE; BUTTER; BUTTERFLY; CACTUS; CADA UNA; CADUCEUS; CALENDAR; CALL ME HAND;
     CAMERA; CAMERA WITH FLASH; CAMPING; CANCELLATION X; CANCER; CANDLE; CANDY; CANNED FOOD;
     CANOE; CAPRICORN; CAR SLIDING; CARD FILE BOX; CARD INDEX; CARD INDEX DIVIDERS; CARE OF;
     CARET; CARET INSERTION POINT; CARON; CAROUSEL HORSE; CARP STREAMER; CARROT; CASTLE; CAT;
     CAT FACE; CAT FACE WITH TEARS OF JOY; CAT FACE WITH WRY SMILE; CAUTION SIGN; CEDI SIGN;
     CEDILLA; CELTIC CROSS; CENT SIGN; CENTRE LINE SYMBOL; CERES; CHAINS; CHARACTER TIE;
     CHART WITH DOWNWARDS TREND; CHART WITH UPWARDS TREND; CHART WITH UPWARDS TREND AND YEN SIGN;
     CHECK MARK; CHEERING MEGAPHONE; CHEESE WEDGE; CHEQUERED FLAG; CHERRIES; CHERRY BLOSSOM;
     CHESTNUT; CHI RHO; CHICKEN; CHILD; CHILDREN CROSSING; CHIPMUNK; CHIRON; CHOCOLATE BAR;
     CHOPSTICKS; CHRISTMAS TREE; CHURCH; CINEMA; CIRCUMFLEX ACCENT; CIRCUS TENT; CITYSCAPE;
     CITYSCAPE AT DUSK; CLAMSHELL MOBILE PHONE; CLAPPER BOARD; CLAPPING HANDS SIGN;
     CLASSICAL BUILDING; CLINKING BEER MUGS; CLINKING GLASSES; CLIPBOARD; CLOSE UP; CLOSED BOOK;
     CLOSED LOCK WITH KEY; CLOSED MAILBOX WITH LOWERED FLAG; CLOSED MAILBOX WITH RAISED FLAG;
     CLOSED UMBRELLA; CLOUD; CLOUD WITH LIGHTNING; CLOUD WITH RAIN; CLOUD WITH SNOW;
     CLOUD WITH TORNADO; CLOWN FACE; COAT; COCKTAIL GLASS; COCONUT; COFFIN; COLLISION SYMBOL;
     COLON; COLON EQUALS; COLON SIGN; COMET; COMMA; COMMERCIAL AT; COMMERCIAL MINUS SIGN; COMPASS;
     COMPLEMENT; COMPRESSION; CONFETTI BALL; CONFOUNDED FACE; CONFUSED FACE; CONJUNCTION;
     CONSTRUCTION SIGN; CONSTRUCTION WORKER; CONTOUR INTEGRAL; CONTROL KNOBS; CONVENIENCE STORE;
     COOKED RICE; COOKIE; COOKING; COPYRIGHT SIGN; CORRESPONDS TO; COUCH AND LAMP;
     COUPLE WITH HEART; COW; COW FACE; CRAB; CREDIT CARD; CRESCENT MOON; CRICKET;
     CRICKET BAT AND BALL; CROCODILE; CROISSANT; CROSS MARK; CROSS OF JERUSALEM;
     CROSS OF LORRAINE; CROSS POMMEE; CROSS POMMEE WITH HALF-CIRCLE BELOW; CROSSED FLAGS;
     CROSSED SWORDS; CROSSING LANES; CROWN; CRUZEIRO SIGN; CRYING CAT FACE; CRYING FACE;
     CRYSTAL BALL; CUBE ROOT; CUCUMBER; CUP ON BLACK SQUARE; CUP WITH STRAW; CUPCAKE;
     CURLING STONE; CURLY LOGICAL AND; CURLY LOGICAL OR; CURLY LOOP; CURRENCY EXCHANGE;
     CURRENCY SIGN; CURRY AND RICE; CURVED STEM PARAGRAPH SIGN ORNAMENT; CUSTARD; CUSTOMS;
     CUT OF MEAT; CYCLONE; CYLINDRICITY; DAGGER; DAGGER KNIFE; DALET SYMBOL; DANCER; DANGO;
     DARK SHADE; DARK SUNGLASSES; DASH SYMBOL; DASHED TRIANGLE-HEADED RIGHTWARDS ARROW;
     DEAF PERSON; DECIDUOUS TREE; DECREASE FONT SIZE SYMBOL; DEER; DEGREE CELSIUS;
     DEGREE FAHRENHEIT; DEGREE SIGN; DELIVERY TRUCK; DELTA EQUAL TO; DEPARTMENT STORE;
     DERELICT HOUSE BUILDING; DESCENDING NODE; DESERT; DESERT ISLAND; DESKTOP COMPUTER;
     DESKTOP WINDOW; DIAERESIS; DIAMETER SIGN; DIAMOND OPERATOR; DIAMOND SHAPE WITH A DOT INSIDE;
     DIESEL LOCOMOTIVE; DIFFERENCE BETWEEN; DIGRAM FOR GREATER YANG; DIGRAM FOR GREATER YIN;
     DIGRAM FOR LESSER YANG; DIGRAM FOR LESSER YIN; DIRECT HIT; DISABLED CAR;
     DISAPPOINTED BUT RELIEVED FACE; DISAPPOINTED FACE; DISGUISED FACE; DIVIDES; DIVING MASK;
     DIVISION SIGN; DIVISION SLASH; DIVISION TIMES; DIVORCE SYMBOL; DIZZY FACE; DIZZY SYMBOL;
     DNA DOUBLE HELIX; DO NOT LITTER SYMBOL; DOCUMENT; DOCUMENT WITH PICTURE; DOCUMENT WITH TEXT;
     DOCUMENT WITH TEXT AND PICTURE; DODO; DOG; DOG FACE; DOLLAR SIGN; DOLPHIN; DONG SIGN; DOOR;
     DOT ABOVE; DOT MINUS; DOT OPERATOR; DOT PLUS; DOTTED CIRCLE; DOTTED CROSS;
     DOUBLED FEMALE SIGN; DOUBLED MALE SIGN; DOUGHNUT; DOVE OF PEACE; DOWN ARROWHEAD;
     DOWN RIGHT DIAGONAL ELLIPSIS; DOWN TACK; DOWN-POINTING RED TRIANGLE;
     DOWN-POINTING SMALL RED TRIANGLE; DOWNWARD FACING HOOK; DOWNWARD FACING HOOK WITH DOT;
     DOWNWARD FACING NOTCHED HOOK; DOWNWARD FACING NOTCHED HOOK WITH DOT; DRACHMA SIGN;
     DRAFTING POINT RIGHTWARDS ARROW; DRAGON; DRAGON FACE; DRESS; DRIVE SLOW SIGN;
     DROMEDARY CAMEL; DROOLING FACE; DROPLET; DRUM WITH DRUMSTICKS; DUCK; DUMPLING; DVD;
     E-MAIL SYMBOL; EAGLE; EAR; EAR OF MAIZE; EAR OF RICE; EAR WITH HEARING AID; EARTH;
     EARTH GLOBE AMERICAS; EARTH GLOBE ASIA-AUSTRALIA; EARTH GLOBE EUROPE-AFRICA;
     EAST SYRIAC CROSS; EGG; EIGHTH NOTE; ELECTRIC ARROW; ELECTRIC LIGHT BULB; ELECTRIC PLUG;
     ELECTRIC TORCH; ELEPHANT; ELEVATOR; ELF; EM DASH; EM QUAD; EM SPACE; EN DASH; EN QUAD;
     EN SPACE; END OF PROOF; END WITH LEFTWARDS ARROW ABOVE; ENVELOPE;
     ENVELOPE WITH DOWNWARDS ARROW ABOVE; ENVELOPE WITH LIGHTNING; EQUALS COLON; EQUALS SIGN;
     EQUIANGULAR TO; EQUIVALENT TO; ERASE TO THE LEFT; ERASE TO THE RIGHT; ESTIMATED SYMBOL;
     ESTIMATES; EULER CONSTANT; EURO SIGN; EURO-CURRENCY SIGN; EUROPEAN CASTLE;
     EUROPEAN POST OFFICE; EVERGREEN TREE; EXCESS; EXCLAMATION MARK; EXCLAMATION QUESTION MARK;
     EXPRESSIONLESS FACE; EXTRATERRESTRIAL ALIEN; EYE; EYEGLASSES; EYES; FACSIMILE SIGN; FACTORY;
     FAIRY; FALAFEL; FALLEN LEAF; FALLING DIAGONAL IN WHITE CIRCLE IN BLACK SQUARE; FAMILY;
     FARSI SYMBOL; FATHER CHRISTMAS; FAX ICON; FAX MACHINE; FEARFUL FACE; FEMALE SIGN;
     FEMININE ORDINAL INDICATOR; FENCER; FERRIS WHEEL; FERRY; FIELD HOCKEY STICK AND BALL;
     FIGURE DASH; FIGURE SPACE; FILE CABINET; FILE FOLDER; FILM FRAMES; FILM PROJECTOR; FIRE;
     FIRE ENGINE; FIRE EXTINGUISHER; FIRECRACKER; FIREWORK SPARKLER; FIREWORKS; FIRST PLACE MEDAL;
     FIRST QUARTER MOON; FIRST QUARTER MOON SYMBOL; FIRST QUARTER MOON WITH FACE;
     FIRST STRONG ISOLATE; FISH; FISH CAKE WITH SWIRL DESIGN; FISHEYE; FISHING POLE AND FISH;
     FISTED HAND SIGN; FIVE DOT PUNCTUATION; FLAG IN HOLE; FLAMINGO; FLAT SHOE; FLEUR-DE-LIS;
     FLEXED BICEPS; FLOPPY DISK; FLORAL HEART; FLOWER; FLOWER PLAYING CARDS;
     FLOWER PUNCTUATION MARK; FLUSHED FACE; FLYING DISC; FLYING ENVELOPE; FLYING SAUCER; FOG;
     FOGGY; FOLDER; FOOT; FOOTPRINTS; FOR ALL; FORCES; FORK AND KNIFE; FORK AND KNIFE WITH PLATE;
     FORTUNE COOKIE; FOUNTAIN; FOUR-PER-EM SPACE; FOURTH ROOT; FOX FACE; FRACTION NUMERATOR ONE;
     FRACTION SLASH; FRAME WITH AN X; FRAME WITH PICTURE; FRAME WITH TILES; FREEZING FACE;
     FRENCH FRANC SIGN; FRENCH FRIES; FRIED SHRIMP; FROG FACE; FRONT-FACING BABY CHICK;
     FRONT-TILTED SHADOWED WHITE RIGHTWARDS ARROW; FROWN; FROWNING FACE WITH OPEN MOUTH;
     FUEL PUMP; FULL BLOCK; FULL MOON SYMBOL; FULL MOON WITH FACE; FULL STOP;
     FUNCTION APPLICATION; FUNERAL URN; GAME DIE; GARLIC; GEAR; GEAR WITH HANDLES;
     GEAR WITHOUT HUB; GEM STONE; GEMINI; GENIE; GEOMETRIC PROPORTION; GEOMETRICALLY EQUAL TO;
     GEOMETRICALLY EQUIVALENT TO; GERMAN PENNY SIGN; GHOST; GIMEL SYMBOL; GIRAFFE FACE; GIRL;
     GIRLS SYMBOL; GLASS OF MILK; GLOBE WITH MERIDIANS; GLOVES; GLOWING STAR; GOAL NET; GOAT;
     GOGGLES; GOLFER; GORILLA; GRADUATION CAP; GRAPES; GRAVE ACCENT; GREEN APPLE; GREEN BOOK;
     GREEN HEART; GREEN SALAD; GRIMACING FACE; GRINNING CAT FACE WITH SMILING EYES; GRINNING FACE;
     GRINNING FACE WITH ONE LARGE AND ONE SMALL EYE; GRINNING FACE WITH SMILING EYES;
     GRINNING FACE WITH STAR EYES; GROWING HEART; GUARANI SIGN; GUARDSMAN; GUIDE DOG; GUITAR;
     HAIR SPACE; HAIRCUT; HAMBURGER; HAMMER; HAMMER AND PICK; HAMMER AND SICKLE;
     HAMMER AND WRENCH; HAMSTER FACE; HAND WITH INDEX AND MIDDLE FINGERS CROSSED; HANDBAG;
     HANDBALL; HANDSHAKE; HAPPY PERSON RAISING ONE HAND; HARD DISK; HATCHING CHICK; HEADPHONE;
     HEADSTONE GRAVEYARD SYMBOL; HEAR-NO-EVIL MONKEY; HEART DECORATION; HEART WITH ARROW;
     HEART WITH RIBBON; HEART WITH TIP ON THE LEFT; HEDGEHOG; HELICOPTER; HELMET WITH WHITE CROSS;
     HERB; HERMITIAN CONJUGATE MATRIX; HIBISCUS; HIGH BRIGHTNESS SYMBOL; HIGH VOLTAGE SIGN;
     HIGH-HEELED SHOE; HIGH-SPEED TRAIN; HIGH-SPEED TRAIN WITH BULLET NOSE; HIKING BOOT;
     HINDU TEMPLE; HIPPOPOTAMUS; HISTORIC SITE; HOCHO; HOLE; HOMOTHETIC; HONEY POT; HONEYBEE;
     HORIZONTAL BAR; HORIZONTAL ELLIPSIS; HORIZONTAL MALE WITH STROKE SIGN;
     HORIZONTAL TRAFFIC LIGHT; HORSE; HORSE FACE; HORSE RACING; HOSPITAL; HOT BEVERAGE; HOT DOG;
     HOT PEPPER; HOT SPRINGS; HOTEL; HOURGLASS; HOUSE; HOUSE BUILDING; HOUSE BUILDINGS;
     HOUSE WITH GARDEN; HRYVNIA SIGN; HUGGING FACE; HUNDRED POINTS SYMBOL; HUSHED FACE; HUT;
     HYPHEN; HYPHEN BULLET; HYPHEN-MINUS; HYPHENATION POINT; I LOVE YOU HAND SIGN; ICE CREAM;
     ICE CUBE; ICE HOCKEY STICK AND PUCK; ICE SKATE; IDENTICAL TO; IDEOGRAPHIC COMMA;
     IDEOGRAPHIC FULL STOP; IDEOGRAPHIC SPACE; IMAGE OF; IMAGE OF OR APPROXIMATELY EQUAL TO; IMP;
     INBOX TRAY; INCOMING ENVELOPE; INCREASE FONT SIZE SYMBOL; INCREMENT; INDIAN RUPEE SIGN;
     INFINITY; INFORMATION DESK PERSON; INFORMATION SOURCE; INHIBIT ARABIC FORM SHAPING;
     INHIBIT SYMMETRIC SWAPPING; INPUT SYMBOL FOR LATIN CAPITAL LETTERS;
     INPUT SYMBOL FOR LATIN LETTERS; INPUT SYMBOL FOR LATIN SMALL LETTERS;
     INPUT SYMBOL FOR NUMBERS; INPUT SYMBOL FOR SYMBOLS; INTEGRAL; INTERCALATE;
     INTERLOCKED FEMALE AND MALE SIGN; INTERROBANG; INTERSECTION; INVERSE BULLET;
     INVERSE WHITE CIRCLE; INVISIBLE PLUS; INVISIBLE SEPARATOR; INVISIBLE TIMES; IZAKAYA LANTERN;
     JACK-O-LANTERN; JEANS; JIGSAW PUZZLE PIECE; JOYSTICK; JUGGLING; JUNO; JUPITER; KAABA;
     KANGAROO; KELVIN SIGN; KEY; KEYBOARD; KEYBOARD AND MOUSE; KEYCAP TEN; KIMONO; KIP SIGN; KISS;
     KISS MARK; KISSING CAT FACE WITH CLOSED EYES; KISSING FACE; KISSING FACE WITH CLOSED EYES;
     KISSING FACE WITH SMILING EYES; KIWIFRUIT; KNEELING PERSON; KOALA; L B BAR SYMBOL; LAB COAT;
     LABEL; LACROSSE STICK AND BALL; LADY BEETLE; LARGE BLUE CIRCLE; LARGE BLUE DIAMOND;
     LARGE CIRCLE; LARGE ORANGE DIAMOND; LARGE RED CIRCLE; LARI SIGN; LAST QUARTER MOON;
     LAST QUARTER MOON SYMBOL; LAST QUARTER MOON WITH FACE; LEAF FLUTTERING IN WIND; LEAFY GREEN;
     LEDGER; LEFT-FACING FIST; LEFT-HANDED INTERLACED PENTAGRAM; LEFT-POINTING ANGLE BRACKET;
     LEFT-POINTING DOUBLE ANGLE QUOTATION MARK; LEFT-POINTING MAGNIFYING GLASS;
     LEFT-SHADED WHITE RIGHTWARDS ARROW; LEFT-TO-RIGHT EMBEDDING; LEFT-TO-RIGHT ISOLATE;
     LEFT-TO-RIGHT MARK; LEFT-TO-RIGHT OVERRIDE; LEG; LEMON; LEO; LEOPARD; LEVEL SLIDER; LIBRA;
     LIGHTNING; LIGHTNING MOOD; LIGHTNING MOOD BUBBLE; LINE SEPARATOR; LINK SYMBOL;
     LINKED PAPERCLIPS; LION FACE; LIPS; LIPSTICK; LIRA SIGN; LIVRE TOURNOIS SIGN; LIZARD; LLAMA;
     LOBSTER; LOCK; LOCK WITH INK PEN; LOGICAL AND; LOGICAL OR; LOLLIPOP; LOTION BOTTLE;
     LOUDLY CRYING FACE; LOVE HOTEL; LOVE LETTER; LOW ASTERISK; LOW BRIGHTNESS SYMBOL; LOW LINE;
     LOZENGE; LUGGAGE; LYING FACE; MACRON; MAGE; MAGNET; MALE AND FEMALE SIGN; MALE SIGN;
     MALE WITH STROKE AND MALE AND FEMALE SIGN; MALE WITH STROKE SIGN; MALTESE CROSS; MAMMOTH;
     MAN; MANAT SIGN; MANGO; MANS SHOE; MANTELPIECE CLOCK; MANUAL WHEELCHAIR;
     MAP SYMBOL FOR LIGHTHOUSE; MAPLE LEAF; MARRIAGE SYMBOL; MARTIAL ARTS UNIFORM;
     MASCULINE ORDINAL INDICATOR; MATE DRINK; MAXIMIZE; MEASURED ANGLE; MEASURED BY; MEAT ON BONE;
     MECHANICAL ARM; MECHANICAL LEG; MELON; MEMO; MENORAH WITH NINE BRANCHES; MENS SYMBOL;
     MERCURY; MERPERSON; METRO; MICRO SIGN; MICROBE; MICROPHONE; MICROSCOPE; MIDDLE DOT;
     MIDLINE HORIZONTAL ELLIPSIS; MILITARY MEDAL; MILKY WAY; MILL SIGN; MINIBUS; MINIDISC;
     MINIMIZE; MINUS SIGN; MINUS TILDE; MINUS-OR-PLUS SIGN; MOBILE PHONE; MOBILE PHONE OFF;
     MOBILE PHONE WITH RIGHTWARDS ARROW AT LEFT; MODELS; MODERN PENTATHLON;
     MODIFIER LETTER CIRCUMFLEX ACCENT; MONEY BAG; MONEY WITH WINGS; MONEY-MOUTH FACE; MONKEY;
     MONKEY FACE; MONOGRAM FOR YANG; MONOGRAM FOR YIN; MONORAIL; MOOD BUBBLE; MOON CAKE;
     MOON VIEWING CEREMONY; MOSQUE; MOSQUITO; MOTHER CHRISTMAS; MOTOR BOAT; MOTOR SCOOTER;
     MOTORIZED WHEELCHAIR; MOTORWAY; MOUNT FUJI; MOUNTAIN; MOUNTAIN BICYCLIST; MOUNTAIN CABLEWAY;
     MOUNTAIN RAILWAY; MOUSE; MOUSE FACE; MOUTH; MOVIE CAMERA; MOYAI; MUCH GREATER-THAN;
     MUCH LESS-THAN; MULTIMAP; MULTIPLE MUSICAL NOTES; MULTIPLICATION SIGN; MULTIPLICATION X;
     MULTISET; MULTISET MULTIPLICATION; MULTISET UNION; MUSHROOM; MUSIC FLAT SIGN;
     MUSIC NATURAL SIGN; MUSIC SHARP SIGN; MUSICAL KEYBOARD; MUSICAL KEYBOARD WITH JACKS;
     MUSICAL NOTE; MUSICAL SCORE; NABLA; NAIL POLISH; NAIRA SIGN; NAME BADGE; NAND;
     NARROW NO-BREAK SPACE; NATIONAL DIGIT SHAPES; NATIONAL PARK; NAUSEATED FACE; NAZAR AMULET;
     NECKTIE; NEGATED DOUBLE VERTICAL BAR DOUBLE RIGHT TURNSTILE; NEGATIVE SQUARED CROSS MARK;
     NEPTUNE; NERD FACE; NEUTER; NEUTRAL FACE; NEW MOON SYMBOL; NEW MOON WITH FACE;
     NEW SHEQEL SIGN; NEWSPAPER; NIGHT WITH STARS; NINJA; NO-BREAK SPACE; NOMINAL DIGIT SHAPES;
     NON-BREAKING HYPHEN; NON-POTABLE WATER SYMBOL; NOR; NORDIC MARK SIGN; NORMAL SUBGROUP OF;
     NORMAL SUBGROUP OF OR EQUAL TO; NORTHEAST-POINTING AIRPLANE; NOSE;
     NOTCHED LEFT SEMICIRCLE WITH THREE DOTS; NOTCHED LOWER RIGHT-SHADOWED WHITE RIGHTWARDS ARROW;
     NOTCHED RIGHT SEMICIRCLE WITH THREE DOTS;
     NOTCHED UPPER RIGHT-SHADOWED WHITE RIGHTWARDS ARROW; NOTE; NOTE PAD; NOTE PAGE; NOTEBOOK;
     NOTEBOOK WITH DECORATIVE COVER; NUMBER SIGN; NUMERO SIGN; NUT AND BOLT;
     OBJECT REPLACEMENT CHARACTER; OCTAGONAL SIGN; OCTOPUS; ODEN; OFFICE BUILDING; OGONEK;
     OHM SIGN; OIL DRUM; OK HAND SIGN; OLD KEY; OLD PERSONAL COMPUTER; OLDER ADULT; OLDER MAN;
     OLDER WOMAN; OM SYMBOL; ON WITH EXCLAMATION MARK WITH LEFT RIGHT ARROW ABOVE;
     ONCOMING AUTOMOBILE; ONCOMING BUS; ONCOMING FIRE ENGINE; ONCOMING POLICE CAR; ONCOMING TAXI;
     ONE BUTTON MOUSE; ONE DOT LEADER; ONION; OPEN-OUTLINED RIGHTWARDS ARROW; OPHIUCHUS;
     OPPOSITION; OPTICAL DISC; OPTICAL DISC ICON; OPTION KEY; ORANGE BOOK; ORANGE HEART;
     ORANGUTAN; ORIGINAL OF; ORTHODOX CROSS; OTTER; OUNCE SIGN; OUTBOX TRAY; OUTLINED BLACK STAR;
     OUTLINED GREEK CROSS; OUTLINED LATIN CROSS; OUTLINED WHITE STAR; OVERHEATED FACE; OVERLAP;
     OVERLINE; OWL; OX; OYSTER; PACKAGE; PAGE; PAGE FACING UP; PAGE WITH CIRCLED TEXT;
     PAGE WITH CURL; PAGER; PAGES; PAGODA; PALLAS; PALM TREE; PALMS UP TOGETHER; PANCAKES;
     PANDA FACE; PAPERCLIP; PARAGRAPH SEPARATOR; PARALLEL TO; PARROT; PARTIAL DIFFERENTIAL;
     PARTIALLY-RECYCLED PAPER SYMBOL; PARTY POPPER; PASSENGER SHIP; PASSPORT CONTROL; PAW PRINTS;
     PEACE SYMBOL; PEACH; PEACOCK; PEANUTS; PEAR; PEDESTRIAN; PEN OVER STAMPED ENVELOPE; PENCIL;
     PENGUIN; PENSIVE FACE; PENTAGRAM; PER MILLE SIGN; PER SIGN; PER TEN THOUSAND SIGN;
     PERCENT SIGN; PERFORMING ARTS; PERMANENT PAPER SIGN; PERSEVERING FACE; PERSONAL COMPUTER;
     PERSPECTIVE; PESETA SIGN; PESO SIGN; PETRI DISH; PICK; PICKUP TRUCK; PIE; PIG; PIG FACE;
     PIG NOSE; PILCROW SIGN; PILE OF POO; PILL; PINCHED FINGERS; PINCHING HAND; PINE DECORATION;
     PINEAPPLE; PINWHEEL STAR; PISCES; PISTOL; PITCHFORK; PLACE OF INTEREST SIGN;
     PLACE OF WORSHIP; PLANCK CONSTANT; PLANCK CONSTANT OVER TWO PI; PLAYGROUND SLIDE; PLUS SIGN;
     PLUS-MINUS SIGN; PLUTO; POCKET CALCULATOR; POLICE CAR; POLICE CARS REVOLVING LIGHT;
     POLICE OFFICER; POODLE; POP DIRECTIONAL FORMATTING; POP DIRECTIONAL ISOLATE; POPCORN;
     PORTABLE STEREO; POSITION INDICATOR; POSTAL HORN; POSTBOX; POT OF FOOD; POTABLE WATER SYMBOL;
     POTATO; POUCH; POULTRY LEG; POUND SIGN; POUTING CAT FACE; POUTING FACE; PRAYER BEADS;
     PRECEDES; PRECEDES BUT NOT EQUIVALENT TO; PRECEDES OR EQUAL TO; PRECEDES OR EQUIVALENT TO;
     PRECEDES UNDER RELATION; PREGNANT WOMAN; PRESCRIPTION TAKE; PRETZEL; PRIME; PRINCE; PRINCESS;
     PRINTER; PRINTER ICON; PROBING CANE; PROHIBITED SIGN; PROJECTIVE; PROPERTY LINE; PROPORTION;
     PROPORTIONAL TO; PUBLIC ADDRESS LOUDSPEAKER; PUNCTUATION SPACE; PURPLE HEART; PURSE; PUSHPIN;
     PUT LITTER IN ITS PLACE SYMBOL; QUADRUPLE PRIME; QUARTER NOTE; QUESTION EXCLAMATION MARK;
     QUESTION MARK; QUESTIONED EQUAL TO; QUINCUNX; QUOTATION MARK; RABBIT; RABBIT FACE; RACCOON;
     RACING CAR; RACING MOTORCYCLE; RADIO; RADIO BUTTON; RADIOACTIVE SIGN; RAILWAY CAR;
     RAILWAY TRACK; RAIN; RAINBOW; RAISED BACK OF HAND; RAISED FIST; RAISED HAND;
     RAISED HAND WITH FINGERS SPLAYED; RAISED HAND WITH PART BETWEEN MIDDLE AND RING FINGERS; RAM;
     RAT; RATIO; RECEIPT; RECREATIONAL VEHICLE; RECYCLED PAPER SYMBOL; RED APPLE;
     RED GIFT ENVELOPE; REFERENCE MARK; REGISTERED SIGN; RELIEVED FACE; REMINDER RIBBON;
     REPLACEMENT CHARACTER; RESPONSE; RESTRICTED LEFT ENTRY-1; RESTRICTED LEFT ENTRY-2; RESTROOM;
     REVERSE SOLIDUS; REVOLVING HEARTS; RHINOCEROS; RIBBON; RICE BALL; RICE CRACKER; RIFLE;
     RIGHT-FACING FIST; RIGHT-HANDED INTERLACED PENTAGRAM; RIGHT-POINTING ANGLE BRACKET;
     RIGHT-POINTING DOUBLE ANGLE QUOTATION MARK; RIGHT-POINTING MAGNIFYING GLASS;
     RIGHT-SHADED WHITE RIGHTWARDS ARROW; RIGHT-TO-LEFT EMBEDDING; RIGHT-TO-LEFT ISOLATE;
     RIGHT-TO-LEFT MARK; RIGHT-TO-LEFT OVERRIDE; RING; RING ABOVE; RING BUOY; RING EQUAL TO;
     RING IN EQUAL TO; RING OPERATOR; RINGING BELL; ROASTED SWEET POTATO; ROBOT FACE; ROCKET;
     ROLL OF PAPER; ROLLED-UP NEWSPAPER; ROLLER COASTER; ROLLER SKATE;
     ROLLING ON THE FLOOR LAUGHING; ROOSTER; ROSE; ROSETTE; ROTATED CAPITAL Q;
     ROTATED FLORAL HEART BULLET; ROTATED HEAVY BLACK HEART BULLET; ROUND PUSHPIN; ROWBOAT;
     RUBLE SIGN; RUGBY FOOTBALL; RUNNER; RUNNING SHIRT WITH SASH; RUPEE SIGN; SAFETY PIN;
     SAFETY VEST; SAGITTARIUS; SAILBOAT; SAKE BOTTLE AND CUP; SALT SHAKER; SALTIRE; SANDWICH;
     SARI; SATELLITE; SATELLITE ANTENNA; SATURN; SAUROPOD; SAXOPHONE; SCALES; SCARF; SCHOOL;
     SCHOOL SATCHEL; SCOOTER; SCORPION; SCORPIUS; SCREEN; SCROLL; SCRUPLE; SEAL; SEAT;
     SECOND PLACE MEDAL; SECTION SIGN; SECTOR; SEE-NO-EVIL MONKEY; SEEDLING; SEGMENT; SELFIE;
     SEMICOLON; SEMISEXTILE; SERIOUS FACE WITH SYMBOLS COVERING MOUTH; SERVICE MARK;
     SESQUIQUADRATE; SET MINUS; SEXTILE; SHADOWED WHITE CIRCLE; SHADOWED WHITE LATIN CROSS;
     SHADOWED WHITE STAR; SHALLOW PAN OF FOOD; SHAMROCK; SHARK; SHAVED ICE; SHEEP; SHIELD;
     SHINTO SHRINE; SHIP; SHOCKED FACE WITH EXPLODING HEAD; SHOOTING STAR; SHOPPING BAGS;
     SHOPPING TROLLEY; SHORTCAKE; SHOWER; SHRIMP; SHRUG; SIGN OF THE HORNS; SILHOUETTE OF JAPAN;
     SINE WAVE; SINGLE HIGH-REVERSED-9 QUOTATION MARK; SINGLE LEFT-POINTING ANGLE QUOTATION MARK;
     SINGLE LOW-9 QUOTATION MARK; SINGLE RIGHT-POINTING ANGLE QUOTATION MARK;
     SIX PETALLED BLACK AND WHITE FLORETTE; SIX POINTED BLACK STAR;
     SIX POINTED STAR WITH MIDDLE DOT; SIX-PER-EM SPACE; SIXTEEN POINTED ASTERISK; SKATEBOARD;
     SKI AND SKI BOOT; SKIER; SKULL; SKULL AND CROSSBONES; SKUNK; SLED; SLEEPING ACCOMMODATION;
     SLEEPING FACE; SLEEPING SYMBOL; SLEEPY FACE; SLEUTH OR SPY; SLICE OF PIZZA;
     SLIGHTLY FROWNING FACE; SLIGHTLY SMILING FACE; SLOT MACHINE; SLOTH; SMILE; SMIRKING FACE;
     SMOKING SYMBOL; SNAIL; SNAKE; SNEEZING FACE; SNOW CAPPED MOUNTAIN; SNOWBOARDER; SNOWFLAKE;
     SNOWMAN; SNOWMAN WITHOUT SNOW; SOCCER BALL; SOCKS; SOFT HYPHEN; SOFT ICE CREAM;
     SOFT SHELL FLOPPY DISK; SOFTBALL; SOLIDUS; SOM SIGN; SOON WITH RIGHTWARDS ARROW ABOVE;
     SOUND RECORDING COPYRIGHT; SOUTH EAST ARROW; SOUTH EAST ARROW TO CORNER;
     SOUTH EAST DOUBLE ARROW; SOUTH WEST ARROW; SOUTH WEST DOUBLE ARROW; SPACE; SPAGHETTI;
     SPARKLE; SPARKLES; SPARKLING HEART; SPEAK-NO-EVIL MONKEY; SPEAKER;
     SPEAKER WITH CANCELLATION STROKE; SPEAKER WITH ONE SOUND WAVE;
     SPEAKER WITH THREE SOUND WAVES; SPEAKING HEAD IN SILHOUETTE; SPEECH BALLOON; SPEEDBOAT;
     SPESMILO SIGN; SPHERICAL ANGLE; SPIDER; SPIDER WEB; SPIRAL CALENDAR PAD; SPIRAL NOTE PAD;
     SPIRAL SHELL; SPLASHING SWEAT SYMBOL; SPONGE; SPOOL OF THREAD; SPOON; SPORTS MEDAL;
     SPOUTING WHALE; SQUAT BLACK RIGHTWARDS ARROW; SQUID; STADIUM; STAFF OF AESCULAPIUS;
     STAFF OF HERMES; STAMPED ENVELOPE; STANDING PERSON; STAR AND CRESCENT; STAR EQUALS;
     STAR OF DAVID; STAR OPERATOR; STATION; STATUE OF LIBERTY; STEAM LOCOMOTIVE; STEAMING BOWL;
     STOCK CHART; STRAIGHT RULER; STRAWBERRY; STRESS OUTLINED WHITE STAR; STRICTLY EQUIVALENT TO;
     STUDIO MICROPHONE; STUFFED FLATBREAD; STUPA; SUBSET OF; SUBSET OF OR EQUAL TO;
     SUBSET OF WITH NOT EQUAL TO; SUCCEEDS; SUCCEEDS BUT NOT EQUIVALENT TO; SUCCEEDS OR EQUAL TO;
     SUCCEEDS OR EQUIVALENT TO; SUCCEEDS UNDER RELATION; SUN; SUN BEHIND CLOUD; SUN WITH FACE;
     SUNFLOWER; SUNRISE; SUNRISE OVER MOUNTAINS; SUNSET OVER BUILDINGS; SUPERHERO;
     SUPERSCRIPT ONE; SUPERSCRIPT THREE; SUPERSCRIPT TWO; SUPERSET OF; SUPERSET OF OR EQUAL TO;
     SUPERSET OF WITH NOT EQUAL TO; SUPERVILLAIN; SURFACE INTEGRAL; SURFER; SUSHI;
     SUSPENSION RAILWAY; SWAN; SWIMMER; SWUNG DASH; SYMBOL FOR MARKS CHAPTER;
     SYMBOL FOR SAMARITAN SOURCE; SYMMETRY; SYNAGOGUE; SYRINGE; T-REX; T-SHIRT;
     TABLE TENNIS PADDLE AND BALL; TACO; TAKEOUT BOX; TANABATA TREE; TANGERINE; TAPE CARTRIDGE;
     TAPE DRIVE; TAURUS; TAXI; TEACUP WITHOUT HANDLE; TEAR-OFF CALENDAR;
     TEARDROP-BARBED RIGHTWARDS ARROW; TEARDROP-SPOKED ASTERISK; TEDDY BEAR; TELESCOPE;
     TELEVISION; TENGE SIGN; TENNIS RACQUET AND BALL; TENT; TEST TUBE; THERE DOES NOT EXIST;
     THERE EXISTS; THEREFORE; THERMOMETER; THIN SPACE; THINKING FACE; THIRD PLACE MEDAL;
     THOUGHT BALLOON; THREE-D BOTTOM-LIGHTED RIGHTWARDS ARROWHEAD;
     THREE-D TOP-LIGHTED RIGHTWARDS ARROWHEAD; THREE-PER-EM SPACE; THUMBS DOWN SIGN;
     THUMBS UP SIGN; THUNDER CLOUD AND RAIN; THUNDERSTORM; TICKET; TIGER; TIGER FACE;
     TIGHT TRIFOLIATE SNOWFLAKE; TILDE; TILDE OPERATOR; TIRED FACE; TIRONIAN SIGN ET; TOILET;
     TOKYO TOWER; TOMATO; TONGUE; TOOLBOX; TOOTH; TRACKBALL; TRACTOR; TRADE MARK SIGN; TRAIN;
     TRAM; TRAM CAR; TRIANGLE WITH ROUNDED CORNERS; TRIANGLE-HEADED RIGHTWARDS ARROW;
     TRIANGULAR BULLET; TRIANGULAR FLAG ON POST; TRIANGULAR RULER; TRICOLON; TRIDENT EMBLEM;
     TRIPLE INTEGRAL; TRIPLE PRIME; TRIPLE TILDE; TRIPLE VERTICAL BAR RIGHT TURNSTILE; TROLL;
     TROLLEYBUS; TROPHY; TROPICAL DRINK; TROPICAL FISH; TRUE; TRUMPET; TUGRIK SIGN; TULIP;
     TUMBLER GLASS; TURKEY; TURKISH LIRA SIGN; TURTLE; TWELVE POINTED BLACK STAR;
     TWISTED RIGHTWARDS ARROWS; UMBRELLA; UMBRELLA ON GROUND; UMBRELLA WITH RAIN DROPS;
     UNAMUSED FACE; UNDERTIE; UNICORN FACE; UNION; UNIVERSAL RECYCLING SYMBOL;
     UNMARRIED PARTNERSHIP SYMBOL; UPSIDE-DOWN FACE; URANUS; VAMPIRE; VARIATION SELECTOR-15;
     VARIATION SELECTOR-16; VERSICLE; VERTICAL ELLIPSIS; VERTICAL FOUR DOTS; VERTICAL LINE;
     VERTICAL MALE WITH STROKE SIGN; VERTICAL TRAFFIC LIGHT; VERY MUCH GREATER-THAN;
     VERY MUCH LESS-THAN; VESTA; VIBRATION MODE; VICTORY HAND; VIDEO CAMERA; VIDEO GAME;
     VIDEOCASSETTE; VIEWDATA SQUARE; VIOLIN; VIRGO; VOLCANO; VOLLEYBALL; VOLUME INTEGRAL; WAFFLE;
     WANING CRESCENT MOON SYMBOL; WANING GIBBOUS MOON SYMBOL; WARNING SIGN; WASTEBASKET; WATCH;
     WATER BUFFALO; WATER CLOSET; WATER POLO; WATER WAVE; WATERMELON; WAVING BLACK FLAG;
     WAVING HAND SIGN; WAVING WHITE FLAG; WAVY LINE; WAXING CRESCENT MOON SYMBOL;
     WAXING GIBBOUS MOON SYMBOL; WEARY CAT FACE; WEARY FACE; WEDDING;
     WEDGE-TAILED RIGHTWARDS ARROW; WEIGHT LIFTER; WEST SYRIAC CROSS; WHALE; WHEEL;
     WHEEL OF DHARMA; WHEELCHAIR SYMBOL; WHITE-FEATHERED RIGHTWARDS ARROW; WILTED FLOWER;
     WIND BLOWING FACE; WIND CHIME; WINE GLASS; WINKING FACE; WIRED KEYBOARD; WOLF FACE; WOMAN;
     WOMAN WITH BUNNY EARS; WOMANS BOOTS; WOMANS CLOTHES; WOMANS HAT; WOMANS SANDAL;
     WOMENS SYMBOL; WON SIGN; WORD JOINER; WORLD MAP; WORRIED FACE; WRAPPED PRESENT;
     WREATH PRODUCT; WRENCH; WRESTLERS; WRITING HAND; X IN A RECTANGLE BOX; XOR; YAWNING FACE;
     YELLOW HEART; YEN SIGN; YIN YANG; Z NOTATION BAG MEMBERSHIP; ZEBRA FACE; ZERO WIDTH JOINER;
     ZERO WIDTH NO-BREAK SPACE; ZERO WIDTH NON-JOINER; ZERO WIDTH SPACE; ZIPPER-MOUTH FACE;
     ZOMBIE; START OF HEADING; SOH; START OF TEXT; STX; END OF TEXT; ETX; END OF TRANSMISSION;
     EOT; ENQUIRY; ENQ; ACKNOWLEDGE; ACK; ALERT; BEL; BACKSPACE; BS; CHARACTER TABULATION;
     HORIZONTAL TABULATION; HT; TAB; LINE FEED; NEW LINE; END OF LINE; LF; NL; EOL;
     LINE TABULATION; VERTICAL TABULATION; VT; FORM FEED; FF; CARRIAGE RETURN; CR; SHIFT OUT;
     LOCKING-SHIFT ONE; SO; SHIFT IN; LOCKING-SHIFT ZERO; SI; DATA LINK ESCAPE; DLE;
     DEVICE CONTROL ONE; DC1; DEVICE CONTROL TWO; DC2; DEVICE CONTROL THREE; DC3;
     DEVICE CONTROL FOUR; DC4; NEGATIVE ACKNOWLEDGE; NAK; SYNCHRONOUS IDLE; SYN;
     END OF TRANSMISSION BLOCK; ETB; CANCEL; CAN; END OF MEDIUM; EOM; SUBSTITUTE; SUB; ESCAPE;
     ESC; INFORMATION SEPARATOR FOUR; FILE SEPARATOR; FS; INFORMATION SEPARATOR THREE;
     GROUP SEPARATOR; GS; INFORMATION SEPARATOR TWO; RECORD SEPARATOR; RS;
     INFORMATION SEPARATOR ONE; UNIT SEPARATOR; US; SP; DELETE; DEL; PADDING CHARACTER; PAD;
     HIGH OCTET PRESET; HOP; BREAK PERMITTED HERE; BPH; NO BREAK HERE; NBH; INDEX; IND; NEXT LINE;
     NEL; START OF SELECTED AREA; SSA; END OF SELECTED AREA; ESA; CHARACTER TABULATION SET;
     HORIZONTAL TABULATION SET; HTS; CHARACTER TABULATION WITH JUSTIFICATION; HTJ;
     LINE TABULATION SET; VTS; PARTIAL LINE FORWARD; PLD; PARTIAL LINE BACKWARD; PLU;
     REVERSE LINE FEED; REVERSE INDEX; RI; SINGLE SHIFT TWO; SS2; SINGLE SHIFT THREE; SS3;
     DEVICE CONTROL STRING; DCS; PRIVATE USE ONE; PU1; PRIVATE USE TWO; PU2; SET TRANSMIT STATE;
     STS; CANCEL CHARACTER; CCH; MESSAGE WAITING; MW; START OF GUARDED AREA; SPA;
     END OF GUARDED AREA; EPA; START OF STRING; SOS; SINGLE GRAPHIC CHARACTER INTRODUCER; SGC;
     SINGLE CHARACTER INTRODUCER; SCI; CONTROL SEQUENCE INTRODUCER; CSI; STRING TERMINATOR; ST;
     OPERATING SYSTEM COMMAND; OSC; PRIVACY MESSAGE; PM; APPLICATION PROGRAM COMMAND; APC; NBSP;
     SHY; ZWSP; ZWNJ; ZWJ; LRM; RLM; BOM; ZWNBSP; WJ; CGJ; NNBSP; LRE; RLE; PDF; LRO; RLO; LRI;
     RLI; FSI; PDI; MMSP; NUL; NULL; VS15; VS16; ALM; WEIERSTRASS ELLIPTIC FUNCTION;
     LATIN CAPITAL LETTER GHA; BYTE ORDER MARK"),
  ("BALLOT",
    "BOLD SCRIPT X; BOX; SCRIPT X; X"),
  ("BALLOT BOX WITH",
    "BALLOT; BOLD CHECK; BOLD SCRIPT X; CHECK; SCRIPT X; X"),
  ("BLACK",
    "CENTRE WHITE STAR; CIRCLE; CIRCLE WITH TWO WHITE DOTS; CIRCLE WITH WHITE DOT RIGHT;
     CLUB SUIT; CROSS ON SHIELD; DIAMOND; DIAMOND MINUS WHITE X; DIAMOND SUIT;
     DOWN POINTING BACKHAND INDEX; DOWN-POINTING SMALL TRIANGLE; DOWN-POINTING TRIANGLE;
     DRAUGHTS KING; DRAUGHTS MAN; DROPLET; FLAG; FLORETTE; FOLDER; FOUR POINTED STAR;
     HARD SHELL FLOPPY DISK; HEART; HEART SUIT; LARGE SQUARE; LEFT LANE MERGE;
     LEFT POINTING BACKHAND INDEX; LEFT POINTING INDEX; LEFT-POINTING POINTER;
     LEFT-POINTING SMALL TRIANGLE; LEFT-POINTING TRIANGLE; LEFTWARDS BULLET; LOWER LEFT TRIANGLE;
     LOWER RIGHT TRIANGLE; MEDIUM SMALL SQUARE; MEDIUM SQUARE; MOON LILITH; NIB; PARALLELOGRAM;
     PENNANT; PUSHPIN; QUESTION MARK ORNAMENT; RECTANGLE; RIGHT POINTING BACKHAND INDEX;
     RIGHT POINTING INDEX; RIGHT-POINTING POINTER; RIGHT-POINTING SMALL TRIANGLE;
     RIGHT-POINTING TRIANGLE; RIGHTWARDS ARROW; RIGHTWARDS ARROWHEAD; RIGHTWARDS BULLET; ROSETTE;
     SAFETY SCISSORS; SCISSORS; SHOGI PIECE; SKULL AND CROSSBONES; SMALL SQUARE; SMILING FACE;
     SNOWMAN; SPADE SUIT; SQUARE; SQUARE BUTTON; STAR; SUN WITH RAYS; TELEPHONE;
     TOUCHTONE TELEPHONE; TRUCK; TWO-WAY LEFT WAY TRAFFIC; UNIVERSAL RECYCLING SYMBOL;
     UP POINTING BACKHAND INDEX; UP-POINTING SMALL TRIANGLE; UP-POINTING TRIANGLE;
     UPPER LEFT TRIANGLE; UPPER RIGHT TRIANGLE; VERTICAL RECTANGLE"),
  ("BLACK CHESS",
    "BISHOP; KING; KNIGHT; PAWN; QUEEN; ROOK"),
  ("BOX DRAWINGS DOUBLE",
    "DOWN AND HORIZONTAL; DOWN AND LEFT; DOWN AND RIGHT; HORIZONTAL; UP AND HORIZONTAL;
     UP AND LEFT; UP AND RIGHT; VERTICAL; VERTICAL AND HORIZONTAL; VERTICAL AND LEFT;
     VERTICAL AND RIGHT"),
  ("BOX DRAWINGS DOWN",
    "DOUBLE AND HORIZONTAL SINGLE; DOUBLE AND LEFT SINGLE; DOUBLE AND RIGHT SINGLE;
     SINGLE AND HORIZONTAL DOUBLE; SINGLE AND LEFT DOUBLE; SINGLE AND RIGHT DOUBLE"),
  ("BOX DRAWINGS DOWN HEAVY AND",
    "HORIZONTAL LIGHT; LEFT LIGHT; LEFT UP LIGHT; RIGHT LIGHT; RIGHT UP LIGHT;
     UP HORIZONTAL LIGHT"),
  ("BOX DRAWINGS DOWN LIGHT AND",
    "HORIZONTAL HEAVY; LEFT HEAVY; LEFT UP HEAVY; RIGHT HEAVY; RIGHT UP HEAVY;
     UP HORIZONTAL HEAVY"),
  ("BOX DRAWINGS HEAVY",
    "DOUBLE DASH HORIZONTAL; DOUBLE DASH VERTICAL; DOWN; DOWN AND HORIZONTAL; DOWN AND LEFT;
     DOWN AND RIGHT; HORIZONTAL; LEFT; LEFT AND LIGHT RIGHT; QUADRUPLE DASH HORIZONTAL;
     QUADRUPLE DASH VERTICAL; RIGHT; TRIPLE DASH HORIZONTAL; TRIPLE DASH VERTICAL; UP;
     UP AND HORIZONTAL; UP AND LEFT; UP AND LIGHT DOWN; UP AND RIGHT; VERTICAL;
     VERTICAL AND HORIZONTAL; VERTICAL AND LEFT; VERTICAL AND RIGHT"),
  ("BOX DRAWINGS LEFT",
    "DOWN HEAVY AND RIGHT UP LIGHT; HEAVY AND RIGHT DOWN LIGHT; HEAVY AND RIGHT UP LIGHT;
     HEAVY AND RIGHT VERTICAL LIGHT; LIGHT AND RIGHT DOWN HEAVY; LIGHT AND RIGHT UP HEAVY;
     LIGHT AND RIGHT VERTICAL HEAVY; UP HEAVY AND RIGHT DOWN LIGHT"),
  ("BOX DRAWINGS LIGHT",
    "ARC DOWN AND LEFT; ARC DOWN AND RIGHT; ARC UP AND LEFT; ARC UP AND RIGHT; DIAGONAL CROSS;
     DIAGONAL UPPER LEFT TO LOWER RIGHT; DIAGONAL UPPER RIGHT TO LOWER LEFT;
     DOUBLE DASH HORIZONTAL; DOUBLE DASH VERTICAL; DOWN; DOWN AND HORIZONTAL; DOWN AND LEFT;
     DOWN AND RIGHT; HORIZONTAL; LEFT; LEFT AND HEAVY RIGHT; QUADRUPLE DASH HORIZONTAL;
     QUADRUPLE DASH VERTICAL; RIGHT; TRIPLE DASH HORIZONTAL; TRIPLE DASH VERTICAL; UP;
     UP AND HEAVY DOWN; UP AND HORIZONTAL; UP AND LEFT; UP AND RIGHT; VERTICAL;
     VERTICAL AND HORIZONTAL; VERTICAL AND LEFT; VERTICAL AND RIGHT"),
  ("BOX DRAWINGS RIGHT",
    "DOWN HEAVY AND LEFT UP LIGHT; HEAVY AND LEFT DOWN LIGHT; HEAVY AND LEFT UP LIGHT;
     HEAVY AND LEFT VERTICAL LIGHT; LIGHT AND LEFT DOWN HEAVY; LIGHT AND LEFT UP HEAVY;
     LIGHT AND LEFT VERTICAL HEAVY; UP HEAVY AND LEFT DOWN LIGHT"),
  ("BOX DRAWINGS UP",
    "DOUBLE AND HORIZONTAL SINGLE; DOUBLE AND LEFT SINGLE; DOUBLE AND RIGHT SINGLE;
     SINGLE AND HORIZONTAL DOUBLE; SINGLE AND LEFT DOUBLE; SINGLE AND RIGHT DOUBLE"),
  ("BOX DRAWINGS UP HEAVY AND",
    "DOWN HORIZONTAL LIGHT; HORIZONTAL LIGHT; LEFT DOWN LIGHT; LEFT LIGHT; RIGHT DOWN LIGHT;
     RIGHT LIGHT"),
  ("BOX DRAWINGS UP LIGHT AND",
    "DOWN HORIZONTAL HEAVY; HORIZONTAL HEAVY; LEFT DOWN HEAVY; LEFT HEAVY; RIGHT DOWN HEAVY;
     RIGHT HEAVY"),
  ("BOX DRAWINGS VERTICAL",
    "DOUBLE AND HORIZONTAL SINGLE; DOUBLE AND LEFT SINGLE; DOUBLE AND RIGHT SINGLE;
     HEAVY AND HORIZONTAL LIGHT; HEAVY AND LEFT LIGHT; HEAVY AND RIGHT LIGHT;
     LIGHT AND HORIZONTAL HEAVY; LIGHT AND LEFT HEAVY; LIGHT AND RIGHT HEAVY;
     SINGLE AND HORIZONTAL DOUBLE; SINGLE AND LEFT DOUBLE; SINGLE AND RIGHT DOUBLE"),
  ("CIRCLE WITH",
    "ALL BUT UPPER LEFT QUADRANT BLACK; LEFT HALF BLACK; LOWER HALF BLACK; RIGHT HALF BLACK;
     UPPER HALF BLACK; UPPER RIGHT QUADRANT BLACK; VERTICAL FILL"),
  ("CIRCLED",
    "ASTERISK OPERATOR; CROSS FORMEE; CROSS FORMEE WITH FOUR DOTS; CROSS FORMEE WITH TWO DOTS;
     CROSS POMMEE; CROSSING LANES; DASH; DIVISION SLASH; DOT OPERATOR; EQUALS;
     HEAVY WHITE RIGHTWARDS ARROW; INFORMATION SOURCE; MINUS; OPEN CENTRE EIGHT POINTED STAR;
     PLUS; RING OPERATOR; TIMES; WHITE STAR"),
  ("CLOCK FACE",
    "EIGHT OCLOCK; EIGHT-THIRTY; ELEVEN OCLOCK; ELEVEN-THIRTY; FIVE OCLOCK; FIVE-THIRTY;
     FOUR OCLOCK; FOUR-THIRTY; NINE OCLOCK; NINE-THIRTY; ONE OCLOCK; ONE-THIRTY; SEVEN OCLOCK;
     SEVEN-THIRTY; SIX OCLOCK; SIX-THIRTY; TEN OCLOCK; TEN-THIRTY; THREE OCLOCK; THREE-THIRTY;
     TWELVE OCLOCK; TWELVE-THIRTY; TWO OCLOCK; TWO-THIRTY"),
  ("CLOCKWISE",
    "CONTOUR INTEGRAL; DOWNWARDS AND UPWARDS OPEN CIRCLE ARROWS; INTEGRAL; OPEN CIRCLE ARROW;
     RIGHT AND LEFT SEMICIRCLE ARROWS; RIGHTWARDS AND LEFTWARDS OPEN CIRCLE ARROWS;
     RIGHTWARDS AND LEFTWARDS OPEN CIRCLE ARROWS WITH CIRCLED ONE OVERLAY; TOP SEMICIRCLE ARROW"),
  ("COMBINING",
    "ACUTE ACCENT; CEDILLA; CIRCUMFLEX ACCENT; DIAERESIS; GRAVE ACCENT; TILDE"),
  ("CONTAINS",
    "AS MEMBER; AS NORMAL SUBGROUP; AS NORMAL SUBGROUP OR EQUAL TO; WITH LONG HORIZONTAL STROKE;
     WITH OVERBAR; WITH VERTICAL BAR AT END OF HORIZONTAL STROKE"),
  ("COPTIC CAPITAL LETTER",
    "DEI; FEI; GANGIA; HORI; KHEI; SHEI; SHIMA"),
  ("COPTIC SMALL LETTER",
    "DEI; FEI; GANGIA; HORI; KHEI; SHEI; SHIMA"),
  ("DIE",
    "FACE-1; FACE-2; FACE-3; FACE-4; FACE-5; FACE-6"),
  ("DIGIT",
    "EIGHT; FIVE; FOUR; NINE; ONE; SEVEN; SIX; THREE; TWO; ZERO"),
  ("DINGBAT CIRCLED SANS-SERIF",
    "NUMBER TEN"),
  ("DINGBAT CIRCLED SANS-SERIF DIGIT",
    "EIGHT; FIVE; FOUR; NINE; ONE; SEVEN; SIX; THREE; TWO"),
  ("DINGBAT NEGATIVE CIRCLED",
    "NUMBER TEN"),
  ("DINGBAT NEGATIVE CIRCLED DIGIT",
    "EIGHT; FIVE; FOUR; NINE; ONE; SEVEN; SIX; THREE; TWO"),
  ("DINGBAT NEGATIVE CIRCLED SANS-SERIF",
    "NUMBER TEN"),
  ("DINGBAT NEGATIVE CIRCLED SANS-SERIF DIGIT",
    "EIGHT; FIVE; FOUR; NINE; ONE; SEVEN; SIX; THREE; TWO"),
  ("DOES NOT",
    "CONTAIN AS MEMBER; CONTAIN AS NORMAL SUBGROUP; CONTAIN AS NORMAL SUBGROUP OR EQUAL; DIVIDE;
     FORCE; PRECEDE; PRECEDE OR EQUAL; PROVE; SUCCEED; SUCCEED OR EQUAL"),
  ("DOUBLE",
    "ACUTE ACCENT; CURLY LOOP; DAGGER; EXCLAMATION MARK; HIGH-REVERSED-9 QUOTATION MARK; INTEGRAL;
     INTERSECTION; LOW LINE; LOW-9 QUOTATION MARK; PRIME; QUESTION MARK; SUBSET; SUPERSET; UNION;
     VERTICAL BAR DOUBLE RIGHT TURNSTILE; VERTICAL LINE"),
  ("DOUBLE-STRUCK",
    "ITALIC CAPITAL D; ITALIC SMALL D; ITALIC SMALL E; ITALIC SMALL I; ITALIC SMALL J;
     N-ARY SUMMATION; SMALL GAMMA; SMALL PI"),
  ("DOUBLE-STRUCK CAPITAL",
    "C; GAMMA; H; N; P; PI; Q; R; Z"),
  ("DOWNWARDS",
    "ARROW; DASHED ARROW; DOUBLE ARROW; HARPOON WITH BARB LEFTWARDS; HARPOON WITH BARB RIGHTWARDS;
     PAIRED ARROWS; TWO HEADED ARROW; WHITE ARROW; ZIGZAG ARROW"),
  ("DOWNWARDS ARROW",
    "FROM BAR; LEFTWARDS OF UPWARDS ARROW; WITH CORNER LEFTWARDS; WITH DOUBLE STROKE;
     WITH TIP LEFTWARDS; WITH TIP RIGHTWARDS"),
  ("EIGHT",
    "PETALLED OUTLINED BLACK FLORETTE; POINTED BLACK STAR; POINTED PINWHEEL STAR;
     POINTED RECTILINEAR BLACK STAR; SPOKED ASTERISK; TEARDROP-SPOKED PROPELLER ASTERISK"),
  ("ELEMENT",
    "OF"),
  ("ELEMENT OF WITH",
    "DOT ABOVE; LONG HORIZONTAL STROKE; OVERBAR; TWO HORIZONTAL STROKES; UNDERBAR;
     VERTICAL BAR AT END OF HORIZONTAL STROKE"),
  ("EMOJI",
    "COMPONENT BALD; COMPONENT CURLY HAIR; COMPONENT RED HAIR; COMPONENT WHITE HAIR;
     MODIFIER FITZPATRICK TYPE-1-2; MODIFIER FITZPATRICK TYPE-3; MODIFIER FITZPATRICK TYPE-4;
     MODIFIER FITZPATRICK TYPE-5; MODIFIER FITZPATRICK TYPE-6"),
  ("EMPTY",
    "DOCUMENT; NOTE; NOTE PAD; NOTE PAGE; PAGE; PAGES; SET"),
  ("EQUAL",
    "AND PARALLEL TO; TO BY DEFINITION; TO OR GREATER-THAN; TO OR LESS-THAN; TO OR PRECEDES;
     TO OR SUCCEEDS"),
  ("FACE",
    "HOLDING BACK TEARS; MASSAGE; PALM; SAVOURING DELICIOUS FOOD; SCREAMING IN FEAR;
     THROWING A KISS; WITHOUT MOUTH"),
  ("FACE WITH",
    "COLD SWEAT; COWBOY HAT; FINGER COVERING CLOSED LIPS; HEAD-BANDAGE; LOOK OF TRIUMPH;
     MEDICAL MASK; MONOCLE; NO GOOD GESTURE; OK GESTURE; ONE EYEBROW RAISED; OPEN MOUTH;
     OPEN MOUTH AND COLD SWEAT; OPEN MOUTH VOMITING; PARTY HORN AND PARTY HAT; PLEADING EYES;
     ROLLING EYES; STUCK-OUT TONGUE; STUCK-OUT TONGUE AND TIGHTLY-CLOSED EYES;
     STUCK-OUT TONGUE AND WINKING EYE; TEARS OF JOY; THERMOMETER; UNEVEN EYES AND WAVY MOUTH"),
  ("FOUR",
    "BALLOON-SPOKED ASTERISK; CLUB-SPOKED ASTERISK; DOT MARK; DOT PUNCTUATION; LEAF CLOVER;
     TEARDROP-SPOKED ASTERISK"),
  ("GREATER-THAN",
    "BUT NOT EQUAL TO; BUT NOT EQUIVALENT TO; EQUAL TO OR LESS-THAN; OR EQUAL TO;
     OR EQUIVALENT TO; OR LESS-THAN; OVER EQUAL TO; SIGN; WITH DOT"),
  ("HEAVY",
    "ASTERISK; BALLOT X; BLACK CURVED DOWNWARDS AND RIGHTWARDS ARROW;
     BLACK CURVED UPWARDS AND RIGHTWARDS ARROW; BLACK HEART; BLACK-FEATHERED NORTH EAST ARROW;
     BLACK-FEATHERED RIGHTWARDS ARROW; BLACK-FEATHERED SOUTH EAST ARROW; CHECK MARK;
     CHEVRON SNOWFLAKE; CIRCLE WITH STROKE AND TWO DOTS ABOVE;
     CONCAVE-POINTED BLACK RIGHTWARDS ARROW; DASHED TRIANGLE-HEADED RIGHTWARDS ARROW;
     DIVISION SIGN; DOLLAR SIGN; DOUBLE COMMA QUOTATION MARK ORNAMENT;
     DOUBLE TURNED COMMA QUOTATION MARK ORNAMENT; EIGHT POINTED RECTILINEAR BLACK STAR;
     EIGHT TEARDROP-SPOKED PROPELLER ASTERISK; EXCLAMATION MARK ORNAMENT; EXCLAMATION MARK SYMBOL;
     FOUR BALLOON-SPOKED ASTERISK; GREEK CROSS; HEART EXCLAMATION MARK ORNAMENT; LARGE CIRCLE;
     LATIN CROSS; LEFT-POINTING ANGLE BRACKET ORNAMENT;
     LEFT-POINTING ANGLE QUOTATION MARK ORNAMENT; LOW DOUBLE COMMA QUOTATION MARK ORNAMENT;
     LOW SINGLE COMMA QUOTATION MARK ORNAMENT; LOWER RIGHT-SHADOWED WHITE RIGHTWARDS ARROW;
     MINUS SIGN; MULTIPLICATION X; NORTH EAST ARROW; OPEN CENTRE CROSS; OUTLINED BLACK STAR;
     PLUS SIGN; RIGHT-POINTING ANGLE BRACKET ORNAMENT;
     RIGHT-POINTING ANGLE QUOTATION MARK ORNAMENT; RIGHTWARDS ARROW;
     ROUND-TIPPED RIGHTWARDS ARROW; SINGLE COMMA QUOTATION MARK ORNAMENT;
     SINGLE TURNED COMMA QUOTATION MARK ORNAMENT; SOUTH EAST ARROW; SPARKLE;
     TEARDROP-SHANKED RIGHTWARDS ARROW; TEARDROP-SPOKED ASTERISK;
     TEARDROP-SPOKED PINWHEEL ASTERISK; TRIANGLE-HEADED RIGHTWARDS ARROW;
     UPPER RIGHT-SHADOWED WHITE RIGHTWARDS ARROW; VERTICAL BAR; WEDGE-TAILED RIGHTWARDS ARROW;
     WHITE DOWN-POINTING TRIANGLE; WIDE-HEADED RIGHTWARDS ARROW"),
  ("INVERTED",
    "EXCLAMATION MARK; LAZY S; OHM SIGN; PENTAGRAM; QUESTION MARK; UNDERTIE"),
  ("JAPANESE",
    "BANK SYMBOL; CASTLE; DOLLS; GOBLIN; OGRE; POST OFFICE; SYMBOL FOR BEGINNER"),
  ("LEFT",
    "ANGER BUBBLE; CEILING; CLOSED ENTRY; CURLY BRACKET; DOUBLE QUOTATION MARK;
     FIVE EIGHTHS BLOCK; FLOOR; HAND TELEPHONE RECEIVER; LUGGAGE;
     NORMAL FACTOR SEMIDIRECT PRODUCT; ONE EIGHTH BLOCK; ONE QUARTER BLOCK; PARENTHESIS;
     SEMIDIRECT PRODUCT; SEVEN EIGHTHS BLOCK; SINGLE QUOTATION MARK; SPEECH BUBBLE;
     SQUARE BRACKET; SQUARE BRACKET WITH QUILL; TACK; THOUGHT BUBBLE; THREE EIGHTHS BLOCK;
     THREE QUARTERS BLOCK; WRITING HAND"),
  ("LEFT HALF",
    "BLACK CIRCLE; BLOCK; CIRCLE; CIRCLE WITH DOT; CIRCLE WITH FOUR DOTS; CIRCLE WITH THREE DOTS;
     CIRCLE WITH TWO DOTS"),
  ("LEFT RIGHT",
    "ARROW; ARROW WITH DOUBLE VERTICAL STROKE; ARROW WITH STROKE; ARROW WITH VERTICAL STROKE;
     DOUBLE ARROW; DOUBLE ARROW WITH STROKE; OPEN-HEADED ARROW; WAVE ARROW"),
  ("LEFTWARDS",
    "ARROW; DASHED ARROW; DOUBLE ARROW; DOUBLE ARROW WITH STROKE; HARPOON OVER RIGHTWARDS HARPOON;
     HARPOON WITH BARB DOWNWARDS; HARPOON WITH BARB UPWARDS; OPEN-HEADED ARROW; PAIRED ARROWS;
     SQUIGGLE ARROW; TRIPLE ARROW; TWO HEADED ARROW; WAVE ARROW; WHITE ARROW"),
  ("LEFTWARDS ARROW",
    "FROM BAR; OVER RIGHTWARDS ARROW; TO BAR; TO BAR OVER RIGHTWARDS ARROW TO BAR"),
  ("LEFTWARDS ARROW WITH",
    "DOUBLE VERTICAL STROKE; HOOK; LOOP; STROKE; TAIL; VERTICAL STROKE"),
  ("LESS-THAN",
    "BUT NOT EQUAL TO; BUT NOT EQUIVALENT TO; EQUAL TO OR GREATER-THAN; OR EQUAL TO;
     OR EQUIVALENT TO; OR GREATER-THAN; OVER EQUAL TO; SIGN; WITH DOT"),
  ("LIGHT",
    "CHECK MARK; LEFT TORTOISE SHELL BRACKET ORNAMENT; RAIL;
     RIGHT TORTOISE SHELL BRACKET ORNAMENT; SHADE; VERTICAL BAR"),
  ("LOWER",
    "BLADE SCISSORS; FIVE EIGHTHS BLOCK; HALF BLOCK; HALF CIRCLE; HALF INVERSE WHITE CIRCLE;
     ONE EIGHTH BLOCK; ONE QUARTER BLOCK; SEVEN EIGHTHS BLOCK; THREE EIGHTHS BLOCK;
     THREE QUARTERS BLOCK"),
  ("LOWER LEFT",
    "BALLPOINT PEN; CRAYON; FOUNTAIN PEN; PAINTBRUSH; PENCIL; QUADRANT CIRCULAR ARC; TRIANGLE"),
  ("LOWER RIGHT",
    "DROP-SHADOWED WHITE SQUARE; PENCIL; QUADRANT CIRCULAR ARC; SHADOWED WHITE CIRCLE;
     SHADOWED WHITE SQUARE; TRIANGLE"),
  ("MAN",
    "AND WOMAN HOLDING HANDS; DANCING; IN BUSINESS SUIT LEVITATING; IN TUXEDO; WITH GUA PI MAO;
     WITH TURBAN"),
  ("MEDIUM",
    "BLACK CIRCLE; FLATTENED LEFT PARENTHESIS ORNAMENT; FLATTENED RIGHT PARENTHESIS ORNAMENT;
     LEFT CURLY BRACKET ORNAMENT; LEFT PARENTHESIS ORNAMENT; LEFT-POINTING ANGLE BRACKET ORNAMENT;
     MATHEMATICAL SPACE; RIGHT CURLY BRACKET ORNAMENT; RIGHT PARENTHESIS ORNAMENT;
     RIGHT-POINTING ANGLE BRACKET ORNAMENT; SHADE; SMALL WHITE CIRCLE; VERTICAL BAR; WHITE CIRCLE"),
  ("N-ARY",
    "COPRODUCT; INTERSECTION; LOGICAL AND; LOGICAL OR; PRODUCT; SUMMATION; UNION"),
  ("NEITHER",
    "A SUBSET OF NOR EQUAL TO; A SUPERSET OF NOR EQUAL TO; APPROXIMATELY NOR ACTUALLY EQUAL TO;
     GREATER-THAN NOR EQUAL TO; GREATER-THAN NOR EQUIVALENT TO; GREATER-THAN NOR LESS-THAN;
     LESS-THAN NOR EQUAL TO; LESS-THAN NOR EQUIVALENT TO; LESS-THAN NOR GREATER-THAN"),
  ("NO",
    "BICYCLES; ENTRY; ENTRY SIGN; MOBILE PHONES; ONE UNDER EIGHTEEN SYMBOL; PEDESTRIANS; PIRACY;
     SMOKING SYMBOL"),
  ("NORTH",
    "EAST ARROW; EAST DOUBLE ARROW; WEST ARROW; WEST ARROW TO CORNER; WEST ARROW TO LONG BAR;
     WEST DOUBLE ARROW"),
  ("NOT",
    "A SUBSET OF; A SUPERSET OF; ALMOST EQUAL TO; AN ELEMENT OF; ASYMPTOTICALLY EQUAL TO;
     EQUAL TO; EQUIVALENT TO; GREATER-THAN; IDENTICAL TO; LESS-THAN; NORMAL SUBGROUP OF;
     NORMAL SUBGROUP OF OR EQUAL TO; PARALLEL TO; SIGN; SQUARE IMAGE OF OR EQUAL TO;
     SQUARE ORIGINAL OF OR EQUAL TO; TILDE; TRUE"),
  ("OPEN",
    "BOOK; CENTRE ASTERISK; CENTRE BLACK STAR; CENTRE CROSS; CENTRE TEARDROP-SPOKED ASTERISK;
     FILE FOLDER; FOLDER; HANDS SIGN; LOCK; MAILBOX WITH LOWERED FLAG; MAILBOX WITH RAISED FLAG"),
  ("PERSON",
    "BOWING DEEPLY; CLIMBING; DOING CARTWHEEL; FROWNING; IN LOTUS POSITION; IN STEAMY ROOM;
     RAISING BOTH HANDS IN CELEBRATION; WITH BALL; WITH BLOND HAIR; WITH FOLDED HANDS;
     WITH HEADSCARF; WITH POUTING FACE"),
  ("QUADRANT",
    "LOWER LEFT; LOWER RIGHT"),
  ("QUADRANT UPPER",
    "LEFT; LEFT AND LOWER LEFT AND LOWER RIGHT; LEFT AND LOWER RIGHT;
     LEFT AND UPPER RIGHT AND LOWER LEFT; LEFT AND UPPER RIGHT AND LOWER RIGHT; RIGHT;
     RIGHT AND LOWER LEFT; RIGHT AND LOWER LEFT AND LOWER RIGHT"),
  ("RECYCLING SYMBOL FOR",
    "GENERIC MATERIALS; TYPE-1 PLASTICS; TYPE-2 PLASTICS; TYPE-3 PLASTICS; TYPE-4 PLASTICS;
     TYPE-5 PLASTICS; TYPE-6 PLASTICS; TYPE-7 PLASTICS"),
  ("REVERSED",
    "DOUBLE PRIME; HAND WITH MIDDLE FINGER EXTENDED; NOT SIGN; PILCROW SIGN; PRIME;
     RAISED HAND WITH FINGERS SPLAYED; ROTATED FLORAL HEART BULLET; SANS-SERIF CAPITAL L;
     SEMICOLON; THUMBS DOWN SIGN; THUMBS UP SIGN; TILDE; TILDE EQUALS; TRIPLE PRIME; VICTORY HAND"),
  ("RIGHT",
    "ANGER BUBBLE; ANGLE; ANGLE WITH ARC; ARROW WITH SMALL CIRCLE; CEILING; CURLY BRACKET;
     DOUBLE QUOTATION MARK; FLOOR; HALF BLACK CIRCLE; HALF BLOCK; HAND TELEPHONE RECEIVER;
     NORMAL FACTOR SEMIDIRECT PRODUCT; ONE EIGHTH BLOCK; PARENTHESIS; SEMIDIRECT PRODUCT;
     SINGLE QUOTATION MARK; SPEAKER; SPEAKER WITH ONE SOUND WAVE; SPEAKER WITH THREE SOUND WAVES;
     SPEECH BUBBLE; SQUARE BRACKET; SQUARE BRACKET WITH QUILL; TACK; THOUGHT BUBBLE; TRIANGLE"),
  ("RIGHTWARDS",
    "ARROW; DASHED ARROW; DOUBLE ARROW; DOUBLE ARROW WITH STROKE; HARPOON OVER LEFTWARDS HARPOON;
     HARPOON WITH BARB DOWNWARDS; HARPOON WITH BARB UPWARDS; OPEN-HEADED ARROW; PAIRED ARROWS;
     SQUIGGLE ARROW; TRIPLE ARROW; TWO HEADED ARROW; WAVE ARROW; WHITE ARROW;
     WHITE ARROW FROM WALL"),
  ("RIGHTWARDS ARROW",
    "FROM BAR; OVER LEFTWARDS ARROW; TO BAR"),
  ("RIGHTWARDS ARROW WITH",
    "CORNER DOWNWARDS; DOUBLE VERTICAL STROKE; HOOK; LOOP; STROKE; TAIL; VERTICAL STROKE"),
  ("ROMAN NUMERAL",
    "EIGHT; ELEVEN; FIFTY; FIFTY EARLY FORM; FIFTY THOUSAND; FIVE; FIVE HUNDRED; FIVE THOUSAND;
     FOUR; NINE; ONE; ONE HUNDRED; ONE HUNDRED THOUSAND; ONE THOUSAND; ONE THOUSAND C D;
     REVERSED ONE HUNDRED; SEVEN; SIX; SIX LATE FORM; TEN; TEN THOUSAND; THREE; TWELVE; TWO"),
  ("SCRIPT",
    "SMALL E; SMALL G; SMALL L; SMALL O"),
  ("SCRIPT CAPITAL",
    "B; E; F; H; I; L; M; P; R"),
  ("SIDEWAYS",
    "BLACK DOWN POINTING INDEX; BLACK LEFT POINTING INDEX; BLACK RIGHT POINTING INDEX;
     BLACK UP POINTING INDEX; WHITE DOWN POINTING INDEX; WHITE LEFT POINTING INDEX;
     WHITE RIGHT POINTING INDEX; WHITE UP POINTING INDEX"),
  ("SMALL",
    "AIRPLANE; BLUE DIAMOND; CONTAINS AS MEMBER; CONTAINS WITH OVERBAR;
     CONTAINS WITH VERTICAL BAR AT END OF HORIZONTAL STROKE; ELEMENT OF; ELEMENT OF WITH OVERBAR;
     ELEMENT OF WITH VERTICAL BAR AT END OF HORIZONTAL STROKE; ORANGE DIAMOND; TILDE"),
  ("SMALL ROMAN NUMERAL",
    "EIGHT; ELEVEN; FIFTY; FIVE; FIVE HUNDRED; FOUR; NINE; ONE; ONE HUNDRED; ONE THOUSAND; SEVEN;
     SIX; TEN; THREE; TWELVE; TWO"),
  ("SMILING",
    "CAT FACE WITH HEART-SHAPED EYES; CAT FACE WITH OPEN MOUTH"),
  ("SMILING FACE WITH",
    "HALO; HEART-SHAPED EYES; HORNS; OPEN MOUTH; OPEN MOUTH AND COLD SWEAT;
     OPEN MOUTH AND SMILING EYES; OPEN MOUTH AND TIGHTLY-CLOSED EYES; SMILING EYES;
     SMILING EYES AND HAND COVERING MOUTH; SMILING EYES AND THREE HEARTS; SUNGLASSES; TEAR"),
  ("SQUARE",
    "CAP; CUP; FOUR CORNERS; IMAGE OF; IMAGE OF OR EQUAL TO; IMAGE OF OR NOT EQUAL TO; LOZENGE;
     ORIGINAL OF; ORIGINAL OF OR EQUAL TO; ORIGINAL OF OR NOT EQUAL TO; ROOT"),
  ("SQUARE WITH",
    "DIAGONAL CROSSHATCH FILL; HORIZONTAL FILL; LEFT HALF BLACK; LOWER RIGHT DIAGONAL HALF BLACK;
     ORTHOGONAL CROSSHATCH FILL; RIGHT HALF BLACK; UPPER LEFT DIAGONAL HALF BLACK;
     UPPER LEFT TO LOWER RIGHT FILL; UPPER RIGHT TO LOWER LEFT FILL; VERTICAL FILL"),
  ("SQUARED",
    "DOT OPERATOR; KEY; MINUS; PLUS; SALTIRE; TIMES"),
  ("TELEPHONE",
    "LOCATION SIGN; ON TOP OF MODEM; RECEIVER; RECEIVER WITH PAGE; RECORDER; SIGN"),
  ("THREE",
    "BUTTON MOUSE; DOT PUNCTUATION; LINES CONVERGING LEFT; LINES CONVERGING RIGHT;
     NETWORKED COMPUTERS; RAYS ABOVE; RAYS BELOW; RAYS LEFT; RAYS RIGHT; RIGHTWARDS ARROWS;
     SPEECH BUBBLES"),
  ("TOP",
    "HALF INTEGRAL; HAT; LEFT CORNER; LEFT CROP; RIGHT CORNER; RIGHT CROP;
     WITH UPWARDS ARROW ABOVE"),
  ("TRIGRAM FOR",
    "EARTH; FIRE; HEAVEN; LAKE; MOUNTAIN; THUNDER; WATER; WIND"),
  ("TURNED",
    "AMPERSAND; BLACK SHOGI PIECE; CAPITAL F; DIGIT THREE; DIGIT TWO; GREEK SMALL LETTER IOTA;
     NOT SIGN; OK HAND SIGN; SANS-SERIF CAPITAL G; SANS-SERIF CAPITAL L; SANS-SERIF CAPITAL Y;
     SMALL F; WHITE SHOGI PIECE"),
  ("TWO",
    "ASTERISKS ALIGNED VERTICALLY; BUTTON MOUSE; DOT LEADER; DOT PUNCTUATION; HEARTS;
     MEN HOLDING HANDS; SPEECH BUBBLES; WOMEN HOLDING HANDS"),
  ("UP",
    "ARROWHEAD; ARROWHEAD BETWEEN TWO HORIZONTAL BARS; DOWN ARROW; DOWN ARROW WITH BASE;
     DOWN DOUBLE ARROW; DOWN WHITE ARROW; RIGHT DIAGONAL ELLIPSIS; TACK"),
  ("UP-POINTING",
    "AIRPLANE; MILITARY AIRPLANE; RED TRIANGLE; SMALL AIRPLANE; SMALL RED TRIANGLE;
     TRIANGLE WITH LEFT HALF BLACK; TRIANGLE WITH RIGHT HALF BLACK"),
  ("UPPER",
    "BLADE SCISSORS; HALF BLOCK; HALF CIRCLE; HALF INVERSE WHITE CIRCLE;
     LEFT QUADRANT CIRCULAR ARC; LEFT TRIANGLE; ONE EIGHTH BLOCK"),
  ("UPPER RIGHT",
    "DROP-SHADOWED WHITE SQUARE; PENCIL; QUADRANT CIRCULAR ARC; SHADOWED WHITE CIRCLE;
     SHADOWED WHITE SQUARE; TRIANGLE"),
  ("UPWARDS",
    "ARROW; ARROW FROM BAR; ARROW LEFTWARDS OF DOWNWARDS ARROW; ARROW WITH DOUBLE STROKE;
     ARROW WITH TIP LEFTWARDS; ARROW WITH TIP RIGHTWARDS; DASHED ARROW; DOUBLE ARROW;
     HARPOON WITH BARB LEFTWARDS; HARPOON WITH BARB RIGHTWARDS; PAIRED ARROWS; TWO HEADED ARROW"),
  ("UPWARDS WHITE",
    "ARROW; ARROW FROM BAR; ARROW ON PEDESTAL; ARROW ON PEDESTAL WITH HORIZONTAL BAR;
     ARROW ON PEDESTAL WITH VERTICAL BAR; DOUBLE ARROW; DOUBLE ARROW ON PEDESTAL"),
  ("VULGAR FRACTION",
    "FIVE EIGHTHS; FIVE SIXTHS; FOUR FIFTHS; SEVEN EIGHTHS; THREE EIGHTHS; THREE FIFTHS;
     THREE QUARTERS; TWO FIFTHS; TWO THIRDS; ZERO THIRDS"),
  ("VULGAR FRACTION ONE",
    "EIGHTH; FIFTH; HALF; NINTH; QUARTER; SEVENTH; SIXTH; TENTH; THIRD"),
  ("WHITE",
    "BULLET; CIRCLE; CLUB SUIT; DIAMOND; DIAMOND CONTAINING BLACK SMALL DIAMOND;
     DIAMOND IN SQUARE; DIAMOND SUIT; DOWN POINTING BACKHAND INDEX; DOWN POINTING INDEX;
     DOWN POINTING LEFT HAND INDEX; DOWN-POINTING SMALL TRIANGLE; DOWN-POINTING TRIANGLE;
     DRAUGHTS KING; DRAUGHTS MAN; EXCLAMATION MARK ORNAMENT; FLAG;
     FLAG WITH HORIZONTAL MIDDLE BLACK STRIPE; FLORETTE; FLOWER; FOUR POINTED STAR; FROWNING FACE;
     HARD SHELL FLOPPY DISK; HEART; HEART SUIT; HEAVY CHECK MARK; LARGE SQUARE; LATIN CROSS;
     LEFT LANE MERGE; LEFT POINTING BACKHAND INDEX; LEFT POINTING INDEX; LEFT-POINTING POINTER;
     LEFT-POINTING SMALL TRIANGLE; LEFT-POINTING TRIANGLE; MEDIUM SMALL SQUARE; MEDIUM SQUARE;
     MEDIUM STAR; NIB; PARALLELOGRAM; PENNANT; QUESTION MARK ORNAMENT; RECTANGLE;
     RIGHT POINTING BACKHAND INDEX; RIGHT POINTING INDEX; RIGHT-POINTING POINTER;
     RIGHT-POINTING SMALL TRIANGLE; RIGHT-POINTING TRIANGLE; SCISSORS; SHOGI PIECE; SMALL SQUARE;
     SMILING FACE; SPADE SUIT; SQUARE; STAR; SUN; SUN BEHIND CLOUD; SUN BEHIND CLOUD WITH RAIN;
     SUN WITH RAYS; SUN WITH SMALL CLOUD; TELEPHONE; TOUCHTONE TELEPHONE;
     TWO-WAY LEFT WAY TRAFFIC; UP POINTING BACKHAND INDEX; UP POINTING INDEX;
     UP-POINTING SMALL TRIANGLE; UP-POINTING TRIANGLE; UP-POINTING TRIANGLE WITH DOT;
     VERTICAL RECTANGLE"),
  ("WHITE CHESS",
    "BISHOP; KING; KNIGHT; PAWN; QUEEN; ROOK"),
  ("WHITE CIRCLE WITH",
    "DOT RIGHT; LOWER LEFT QUADRANT; LOWER RIGHT QUADRANT; TWO DOTS; UPPER LEFT QUADRANT;
     UPPER RIGHT QUADRANT"),
  ("WHITE SQUARE",
    "BUTTON; CONTAINING BLACK SMALL SQUARE"),
  ("WHITE SQUARE WITH",
    "LOWER LEFT QUADRANT; LOWER RIGHT QUADRANT; ROUNDED CORNERS; UPPER LEFT QUADRANT;
     UPPER RIGHT QUADRANT; VERTICAL BISECTING LINE")]

end ChangeFeed.Text.CharacterName

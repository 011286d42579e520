/-!
# Names of characters from U+2503 on

The names are written as `CharacterName` reads them.
-/

namespace EachSubject.Text.CharacterName

/-- The names of the characters from U+2503 on. -/
def blockThree : String := "+2503;00BOX DRAWINGS HEAVY VERTICAL;13LIGHT TRIPLE DASH HORIZONTAL;13HEAVY TRIPLE DASH HORIZONTAL
13LIGHT TRIPLE DASH VERTICAL;13HEAVY TRIPLE DASH VERTICAL;13LIGHT QUADRUPLE DASH HORIZONTAL
13HEAVY QUADRUPLE DASH HORIZONTAL;13LIGHT QUADRUPLE DASH VERTICAL;13HEAVY QUADRUPLE DASH VERTICAL
13LIGHT DOWN AND RIGHT;13DOWN LIGHT AND RIGHT HEAVY;18HEAVY AND RIGHT LIGHT;13HEAVY DOWN AND RIGHT
13LIGHT DOWN AND LEFT;13DOWN LIGHT AND LEFT HEAVY;18HEAVY AND LEFT LIGHT;13HEAVY DOWN AND LEFT
13LIGHT UP AND RIGHT;13UP LIGHT AND RIGHT HEAVY;16HEAVY AND RIGHT LIGHT;13HEAVY UP AND RIGHT
13LIGHT UP AND LEFT;13UP LIGHT AND LEFT HEAVY;16HEAVY AND LEFT LIGHT;13HEAVY UP AND LEFT
13LIGHT VERTICAL AND RIGHT;13VERTICAL LIGHT AND RIGHT HEAVY;13UP HEAVY AND RIGHT DOWN LIGHT
13DOWN HEAVY AND RIGHT UP LIGHT;13VERTICAL HEAVY AND RIGHT LIGHT;13DOWN LIGHT AND RIGHT UP HEAVY
13UP LIGHT AND RIGHT DOWN HEAVY;13HEAVY VERTICAL AND RIGHT;13LIGHT VERTICAL AND LEFT
13VERTICAL LIGHT AND LEFT HEAVY;13UP HEAVY AND LEFT DOWN LIGHT;13DOWN HEAVY AND LEFT UP LIGHT
13VERTICAL HEAVY AND LEFT LIGHT;13DOWN LIGHT AND LEFT UP HEAVY;13UP LIGHT AND LEFT DOWN HEAVY
13HEAVY VERTICAL AND LEFT;13LIGHT DOWN AND HORIZONTAL;14EFT HEAVY AND RIGHT DOWN LIGHT
13RIGHT HEAVY AND LEFT DOWN LIGHT;13DOWN LIGHT AND HORIZONTAL HEAVY;18HEAVY AND HORIZONTAL LIGHT
13RIGHT LIGHT AND LEFT DOWN HEAVY;13LEFT LIGHT AND RIGHT DOWN HEAVY;13HEAVY DOWN AND HORIZONTAL
13LIGHT UP AND HORIZONTAL;14EFT HEAVY AND RIGHT UP LIGHT;13RIGHT HEAVY AND LEFT UP LIGHT
13UP LIGHT AND HORIZONTAL HEAVY;16HEAVY AND HORIZONTAL LIGHT;13RIGHT LIGHT AND LEFT UP HEAVY
13LEFT LIGHT AND RIGHT UP HEAVY;13HEAVY UP AND HORIZONTAL;13LIGHT VERTICAL AND HORIZONTAL
14EFT HEAVY AND RIGHT VERTICAL LIGHT;13RIGHT HEAVY AND LEFT VERTICAL LIGHT
13VERTICAL LIGHT AND HORIZONTAL HEAVY;13UP HEAVY AND DOWN HORIZONTAL LIGHT
13DOWN HEAVY AND UP HORIZONTAL LIGHT;13VERTICAL HEAVY AND HORIZONTAL LIGHT
13LEFT UP HEAVY AND RIGHT DOWN LIGHT;13RIGHT UP HEAVY AND LEFT DOWN LIGHT
13LEFT DOWN HEAVY AND RIGHT UP LIGHT;13RIGHT DOWN HEAVY AND LEFT UP LIGHT
13DOWN LIGHT AND UP HORIZONTAL HEAVY;13UP LIGHT AND DOWN HORIZONTAL HEAVY
13RIGHT LIGHT AND LEFT VERTICAL HEAVY;13LEFT LIGHT AND RIGHT VERTICAL HEAVY
13HEAVY VERTICAL AND HORIZONTAL;13LIGHT DOUBLE DASH HORIZONTAL;13HEAVY DOUBLE DASH HORIZONTAL
13LIGHT DOUBLE DASH VERTICAL;13HEAVY DOUBLE DASH VERTICAL;13DOUBLE HORIZONTAL;20VERTICAL
15WN SINGLE AND RIGHT DOUBLE;18DOUBLE AND RIGHT SINGLE;15UBLE DOWN AND RIGHT
15WN SINGLE AND LEFT DOUBLE;18DOUBLE AND LEFT SINGLE;15UBLE DOWN AND LEFT
13UP SINGLE AND RIGHT DOUBLE;16DOUBLE AND RIGHT SINGLE;13DOUBLE UP AND RIGHT
13UP SINGLE AND LEFT DOUBLE;16DOUBLE AND LEFT SINGLE;13DOUBLE UP AND LEFT
13VERTICAL SINGLE AND RIGHT DOUBLE;22DOUBLE AND RIGHT SINGLE;13DOUBLE VERTICAL AND RIGHT
13VERTICAL SINGLE AND LEFT DOUBLE;22DOUBLE AND LEFT SINGLE;13DOUBLE VERTICAL AND LEFT
15WN SINGLE AND HORIZONTAL DOUBLE;18DOUBLE AND HORIZONTAL SINGLE;15UBLE DOWN AND HORIZONTAL
13UP SINGLE AND HORIZONTAL DOUBLE;16DOUBLE AND HORIZONTAL SINGLE;13DOUBLE UP AND HORIZONTAL
13VERTICAL SINGLE AND HORIZONTAL DOUBLE;22DOUBLE AND HORIZONTAL SINGLE
13DOUBLE VERTICAL AND HORIZONTAL;13LIGHT ARC DOWN AND RIGHT;32LEFT;23UP AND LEFT;30RIGHT
19DIAGONAL UPPER RIGHT TO LOWER LEFT;34LEFT TO LOWER RIGHT;28CROSS;19LEFT;19UP;19RIGHT;19DOWN
13HEAVY LEFT;19UP;19RIGHT;19DOWN;13LIGHT LEFT AND HEAVY RIGHT;19UP AND HEAVY DOWN
13HEAVY LEFT AND LIGHT RIGHT;19UP AND LIGHT DOWN;00UPPER HALF BLOCK;00LOWER ONE EIGHTH BLOCK
10QUARTER BLOCK;06THREE EIGHTHS BLOCK;06HALF BLOCK;06FIVE EIGHTHS BLOCK;06THREE QUARTERS BLOCK
06SEVEN EIGHTHS BLOCK;00FULL BLOCK;00LEFT SEVEN EIGHTHS BLOCK;05THREE QUARTERS BLOCK
05FIVE EIGHTHS BLOCK;05HALF BLOCK;05THREE EIGHTHS BLOCK;05ONE QUARTER BLOCK;09EIGHTH BLOCK
00RIGHT HALF BLOCK;00LIGHT SHADE;00MEDIUM SHADE;00DARK SHADE;00UPPER ONE EIGHTH BLOCK
00RIGHT ONE EIGHTH BLOCK;00QUADRANT LOWER LEFT;15RIGHT;09UPPER LEFT
19 AND LOWER LEFT AND LOWER RIGHT;30RIGHT;24UPPER RIGHT AND LOWER LEFT;46RIGHT;15RIGHT
20 AND LOWER LEFT;35 AND LOWER RIGHT;00BLACK SQUARE;00WHITE SQUARE;12 WITH ROUNDED CORNERS
13CONTAINING BLACK SMALL SQUARE;00SQUARE WITH HORIZONTAL FILL;12VERTICAL FILL
12ORTHOGONAL CROSSHATCH FILL;12UPPER LEFT TO LOWER RIGHT FILL;18RIGHT TO LOWER LEFT FILL
12DIAGONAL CROSSHATCH FILL;00BLACK SMALL SQUARE;00WHITE SMALL SQUARE;00BLACK RECTANGLE
00WHITE RECTANGLE;00BLACK VERTICAL RECTANGLE;00WHITE VERTICAL RECTANGLE;00BLACK PARALLELOGRAM
00WHITE PARALLELOGRAM;00BLACK UP-POINTING TRIANGLE;00WHITE UP-POINTING TRIANGLE
00BLACK UP-POINTING SMALL TRIANGLE;00WHITE UP-POINTING SMALL TRIANGLE
00BLACK RIGHT-POINTING TRIANGLE;00WHITE RIGHT-POINTING TRIANGLE
00BLACK RIGHT-POINTING SMALL TRIANGLE;00WHITE RIGHT-POINTING SMALL TRIANGLE
00BLACK RIGHT-POINTING POINTER;00WHITE RIGHT-POINTING POINTER;00BLACK DOWN-POINTING TRIANGLE
00WHITE DOWN-POINTING TRIANGLE;00BLACK DOWN-POINTING SMALL TRIANGLE
00WHITE DOWN-POINTING SMALL TRIANGLE;00BLACK LEFT-POINTING TRIANGLE;00WHITE LEFT-POINTING TRIANGLE
00BLACK LEFT-POINTING SMALL TRIANGLE;00WHITE LEFT-POINTING SMALL TRIANGLE
00BLACK LEFT-POINTING POINTER;00WHITE LEFT-POINTING POINTER;00BLACK DIAMOND;00WHITE DIAMOND
13 CONTAINING BLACK SMALL DIAMOND;00FISHEYE;00LOZENGE;00WHITE CIRCLE;00DOTTED CIRCLE
00CIRCLE WITH VERTICAL FILL;00BULLSEYE;01LACK CIRCLE;00CIRCLE WITH LEFT HALF BLACK
12RIGHT HALF BLACK;12LOWER HALF BLACK;12UPPER HALF BLACK;18RIGHT QUADRANT BLACK
12ALL BUT UPPER LEFT QUADRANT BLACK;00LEFT HALF BLACK CIRCLE;00RIGHT HALF BLACK CIRCLE
00INVERSE BULLET;08WHITE CIRCLE;00UPPER HALF INVERSE WHITE CIRCLE
00LOWER HALF INVERSE WHITE CIRCLE;00UPPER LEFT QUADRANT CIRCULAR ARC;06RIGHT QUADRANT CIRCULAR ARC
00LOWER RIGHT QUADRANT CIRCULAR ARC;06LEFT QUADRANT CIRCULAR ARC;00UPPER HALF CIRCLE
00LOWER HALF CIRCLE;00BLACK LOWER RIGHT TRIANGLE;12LEFT TRIANGLE;06UPPER LEFT TRIANGLE
12RIGHT TRIANGLE;00WHITE BULLET;00SQUARE WITH LEFT HALF BLACK;12RIGHT HALF BLACK
12UPPER LEFT DIAGONAL HALF BLACK;12LOWER RIGHT DIAGONAL HALF BLACK
00WHITE SQUARE WITH VERTICAL BISECTING LINE;06UP-POINTING TRIANGLE WITH DOT
00UP-POINTING TRIANGLE WITH LEFT HALF BLACK;26RIGHT HALF BLACK;00LARGE CIRCLE
00WHITE SQUARE WITH UPPER LEFT QUADRANT;18LOWER LEFT QUADRANT;24RIGHT QUADRANT
18UPPER RIGHT QUADRANT;06CIRCLE WITH UPPER LEFT QUADRANT;18LOWER LEFT QUADRANT;24RIGHT QUADRANT
18UPPER RIGHT QUADRANT;00UPPER LEFT TRIANGLE;06RIGHT TRIANGLE;00LOWER LEFT TRIANGLE
00WHITE MEDIUM SQUARE;00BLACK MEDIUM SQUARE;00WHITE MEDIUM SMALL SQUARE
00BLACK MEDIUM SMALL SQUARE;00LOWER RIGHT TRIANGLE;00BLACK SUN WITH RAYS;00CLOUD;00UMBRELLA
00SNOWMAN;00COMET;00BLACK STAR;00WHITE STAR;00LIGHTNING;00THUNDERSTORM;00SUN;00ASCENDING NODE
00DESCENDING NODE;00CONJUNCTION;00OPPOSITION;00BLACK TELEPHONE;00WHITE TELEPHONE;00BALLOT BOX
10 WITH CHECK;16X;00SALTIRE;00UMBRELLA WITH RAIN DROPS;00HOT BEVERAGE;00WHITE SHOGI PIECE
00BLACK SHOGI PIECE;00SHAMROCK;00REVERSED ROTATED FLORAL HEART BULLET;00BLACK LEFT POINTING INDEX
06RIGHT POINTING INDEX;00WHITE LEFT POINTING INDEX;06UP POINTING INDEX;06RIGHT POINTING INDEX
06DOWN POINTING INDEX;00SKULL AND CROSSBONES;00CAUTION SIGN;00RADIOACTIVE SIGN;00BIOHAZARD SIGN
00CADUCEUS;00ANKH;00ORTHODOX CROSS;00CHI RHO;01ROSS OF LORRAINE;09JERUSALEM;00STAR AND CRESCENT
00FARSI SYMBOL;00ADI SHAKTI;00HAMMER AND SICKLE;00PEACE SYMBOL;00YIN YANG;00TRIGRAM FOR HEAVEN
12LAKE;12FIRE;12THUNDER;12WIND;13ATER;12MOUNTAIN;12EARTH;00WHEEL OF DHARMA;02ITE FROWNING FACE
06SMILING FACE;00BLACK SMILING FACE;00WHITE SUN WITH RAYS;00FIRST QUARTER MOON;00LAST QUARTER MOON
00MERCURY;00FEMALE SIGN;00EARTH;00MALE SIGN;00JUPITER;00SATURN;00URANUS;00NEPTUNE;00PLUTO;00ARIES
00TAURUS;00GEMINI;00CANCER;00LEO;00VIRGO;00LIBRA;00SCORPIUS;01AGITTARIUS;00CAPRICORN;00AQUARIUS
00PISCES;00WHITE CHESS KING;12QUEEN;12ROOK;12BISHOP;12KNIGHT;12PAWN;00BLACK CHESS KING;12QUEEN
12ROOK;12BISHOP;12KNIGHT;12PAWN;06SPADE SUIT;00WHITE HEART SUIT;06DIAMOND SUIT;00BLACK CLUB SUIT
00WHITE SPADE SUIT;00BLACK HEART SUIT;06DIAMOND SUIT;00WHITE CLUB SUIT;00HOT SPRINGS
00QUARTER NOTE;00EIGHTH NOTE;00BEAMED EIGHTH NOTES;07SIXTEENTH NOTES;00MUSIC FLAT SIGN
06NATURAL SIGN;06SHARP SIGN;00WEST SYRIAC CROSS;00EAST SYRIAC CROSS;00UNIVERSAL RECYCLING SYMBOL
00RECYCLING SYMBOL FOR TYPE-1 PLASTICS;262 PLASTICS;263 PLASTICS;264 PLASTICS;265 PLASTICS
266 PLASTICS;267 PLASTICS;21GENERIC MATERIALS;00BLACK UNIVERSAL RECYCLING SYMBOL
00RECYCLED PAPER SYMBOL;00PARTIALLY-RECYCLED PAPER SYMBOL;01ERMANENT PAPER SIGN
00WHEELCHAIR SYMBOL;00DIE FACE-1;092;093;094;095;096;00WHITE CIRCLE WITH DOT RIGHT;18TWO DOTS
00BLACK CIRCLE WITH WHITE DOT RIGHT;18TWO WHITE DOTS;00MONOGRAM FOR YANG;14IN
00DIGRAM FOR GREATER YANG;11LESSER YIN;19ANG;11GREATER YIN;00WHITE FLAG;00BLACK FLAG
00HAMMER AND PICK;00ANCHOR;00CROSSED SWORDS;00STAFF OF AESCULAPIUS;01CALES;00ALEMBIC;00FLOWER
00GEAR;00STAFF OF HERMES;00ATOM SYMBOL;00FLEUR-DE-LIS;00OUTLINED WHITE STAR
00THREE LINES CONVERGING RIGHT;23LEFT;00WARNING SIGN;00HIGH VOLTAGE SIGN;00DOUBLED FEMALE SIGN
08MALE SIGN;00INTERLOCKED FEMALE AND MALE SIGN;00MALE AND FEMALE SIGN;05WITH STROKE SIGN
17AND MALE AND FEMALE SIGN;00VERTICAL MALE WITH STROKE SIGN;00HORIZONTAL MALE WITH STROKE SIGN
00MEDIUM WHITE CIRCLE;07BLACK CIRCLE;07SMALL WHITE CIRCLE;01ARRIAGE SYMBOL;00DIVORCE SYMBOL
00UNMARRIED PARTNERSHIP SYMBOL;00COFFIN;00FUNERAL URN;00NEUTER;00CERES;00PALLAS;00JUNO;00VESTA
00CHIRON;00BLACK MOON LILITH;00SEXTILE;02MISEXTILE;00QUINCUNX;00SESQUIQUADRATE;01OCCER BALL
00BASEBALL;00SQUARED KEY;00WHITE DRAUGHTS MAN;15KING;00BLACK DRAUGHTS MAN;15KING
00SNOWMAN WITHOUT SNOW;01UN BEHIND CLOUD;00RAIN;00BLACK SNOWMAN;00THUNDER CLOUD AND RAIN
01URNED WHITE SHOGI PIECE;07BLACK SHOGI PIECE;00WHITE DIAMOND IN SQUARE;00CROSSING LANES
00DISABLED CAR;00OPHIUCHUS;00PICK;00CAR SLIDING;00HELMET WITH WHITE CROSS;00CIRCLED CROSSING LANES
01HAINS;00NO ENTRY;00ALTERNATE ONE-WAY LEFT WAY TRAFFIC;00BLACK TWO-WAY LEFT WAY TRAFFIC
00WHITE TWO-WAY LEFT WAY TRAFFIC;00BLACK LEFT LANE MERGE;00WHITE LEFT LANE MERGE;00DRIVE SLOW SIGN
00HEAVY WHITE DOWN-POINTING TRIANGLE;00LEFT CLOSED ENTRY;00SQUARED SALTIRE
00FALLING DIAGONAL IN WHITE CIRCLE IN BLACK SQUARE;00BLACK TRUCK;00RESTRICTED LEFT ENTRY-1;222
00ASTRONOMICAL SYMBOL FOR URANUS;00HEAVY CIRCLE WITH STROKE AND TWO DOTS ABOVE;00PENTAGRAM
00RIGHT-HANDED INTERLACED PENTAGRAM;00LEFT-HANDED INTERLACED PENTAGRAM;00INVERTED PENTAGRAM
00BLACK CROSS ON SHIELD;00SHINTO SHRINE;00CHURCH;01ASTLE;00HISTORIC SITE;00GEAR WITHOUT HUB
09 HANDLES;00MAP SYMBOL FOR LIGHTHOUSE;01OUNTAIN;00UMBRELLA ON GROUND;00FOUNTAIN;01LAG IN HOLE
01ERRY;00SAILBOAT;01QUARE FOUR CORNERS;01KIER;00ICE SKATE;00PERSON WITH BALL;00TENT
00JAPANESE BANK SYMBOL;00HEADSTONE GRAVEYARD SYMBOL;00FUEL PUMP;00CUP ON BLACK SQUARE
00WHITE FLAG WITH HORIZONTAL MIDDLE BLACK STRIPE;00BLACK SAFETY SCISSORS;00UPPER BLADE SCISSORS
00BLACK SCISSORS;00LOWER BLADE SCISSORS;00WHITE SCISSORS;06HEAVY CHECK MARK
00TELEPHONE LOCATION SIGN;01APE DRIVE;00AIRPLANE;00ENVELOPE;00RAISED FIST;07HAND;00VICTORY HAND
00WRITING HAND;00LOWER RIGHT PENCIL;00PENCIL;00UPPER RIGHT PENCIL;00WHITE NIB;00BLACK NIB
00CHECK MARK;00HEAVY CHECK MARK;00MULTIPLICATION X;00HEAVY MULTIPLICATION X;00BALLOT X
00HEAVY BALLOT X;00OUTLINED GREEK CROSS;00HEAVY GREEK CROSS;00OPEN CENTRE CROSS
00HEAVY OPEN CENTRE CROSS;00LATIN CROSS;00SHADOWED WHITE LATIN CROSS;00OUTLINED LATIN CROSS
00MALTESE CROSS;00STAR OF DAVID;00FOUR TEARDROP-SPOKED ASTERISK;05BALLOON-SPOKED ASTERISK
00HEAVY FOUR BALLOON-SPOKED ASTERISK;00FOUR CLUB-SPOKED ASTERISK;00BLACK FOUR POINTED STAR
00WHITE FOUR POINTED STAR;00SPARKLES;01TRESS OUTLINED WHITE STAR;00CIRCLED WHITE STAR
00OPEN CENTRE BLACK STAR;00BLACK CENTRE WHITE STAR;00OUTLINED BLACK STAR
00HEAVY OUTLINED BLACK STAR;00PINWHEEL STAR;00SHADOWED WHITE STAR;00HEAVY ASTERISK
00OPEN CENTRE ASTERISK;00EIGHT SPOKED ASTERISK;06POINTED BLACK STAR;14PINWHEEL STAR
00SIX POINTED BLACK STAR;00EIGHT POINTED RECTILINEAR BLACK STAR
00HEAVY EIGHT POINTED RECTILINEAR BLACK STAR;00TWELVE POINTED BLACK STAR
00SIXTEEN POINTED ASTERISK;00TEARDROP-SPOKED ASTERISK;00OPEN CENTRE TEARDROP-SPOKED ASTERISK
00HEAVY TEARDROP-SPOKED ASTERISK;00SIX PETALLED BLACK AND WHITE FLORETTE;00BLACK FLORETTE
00WHITE FLORETTE;00EIGHT PETALLED OUTLINED BLACK FLORETTE;00CIRCLED OPEN CENTRE EIGHT POINTED STAR
00HEAVY TEARDROP-SPOKED PINWHEEL ASTERISK;00SNOWFLAKE;00TIGHT TRIFOLIATE SNOWFLAKE
00HEAVY CHEVRON SNOWFLAKE;00SPARKLE;00HEAVY SPARKLE;00BALLOON-SPOKED ASTERISK
00EIGHT TEARDROP-SPOKED PROPELLER ASTERISK;00HEAVY EIGHT TEARDROP-SPOKED PROPELLER ASTERISK
00CROSS MARK;00SHADOWED WHITE CIRCLE;00NEGATIVE SQUARED CROSS MARK
00LOWER RIGHT DROP-SHADOWED WHITE SQUARE;00UPPER RIGHT DROP-SHADOWED WHITE SQUARE
00LOWER RIGHT SHADOWED WHITE SQUARE;00UPPER RIGHT SHADOWED WHITE SQUARE
00BLACK QUESTION MARK ORNAMENT;00WHITE QUESTION MARK ORNAMENT;06EXCLAMATION MARK ORNAMENT
00BLACK DIAMOND MINUS WHITE X;00HEAVY EXCLAMATION MARK SYMBOL;00LIGHT VERTICAL BAR
00MEDIUM VERTICAL BAR;00HEAVY VERTICAL BAR;06SINGLE TURNED COMMA QUOTATION MARK ORNAMENT
13COMMA QUOTATION MARK ORNAMENT;06DOUBLE TURNED COMMA QUOTATION MARK ORNAMENT
13COMMA QUOTATION MARK ORNAMENT;06LOW SINGLE COMMA QUOTATION MARK ORNAMENT
10DOUBLE COMMA QUOTATION MARK ORNAMENT;00CURVED STEM PARAGRAPH SIGN ORNAMENT
00HEAVY EXCLAMATION MARK ORNAMENT;06HEART EXCLAMATION MARK ORNAMENT;06BLACK HEART
00ROTATED HEAVY BLACK HEART BULLET;00FLORAL HEART;00ROTATED FLORAL HEART BULLET
00MEDIUM LEFT PARENTHESIS ORNAMENT;07RIGHT PARENTHESIS ORNAMENT
07FLATTENED LEFT PARENTHESIS ORNAMENT;17RIGHT PARENTHESIS ORNAMENT
07LEFT-POINTING ANGLE BRACKET ORNAMENT;07RIGHT-POINTING ANGLE BRACKET ORNAMENT
00HEAVY LEFT-POINTING ANGLE QUOTATION MARK ORNAMENT;06RIGHT-POINTING ANGLE QUOTATION MARK ORNAMENT
06LEFT-POINTING ANGLE BRACKET ORNAMENT;06RIGHT-POINTING ANGLE BRACKET ORNAMENT
00LIGHT LEFT TORTOISE SHELL BRACKET ORNAMENT;06RIGHT TORTOISE SHELL BRACKET ORNAMENT
00MEDIUM LEFT CURLY BRACKET ORNAMENT;07RIGHT CURLY BRACKET ORNAMENT
00DINGBAT NEGATIVE CIRCLED DIGIT ONE;31TWO;32HREE;31FOUR;32IVE;31SIX;32EVEN;31EIGHT;31NINE
25NUMBER TEN;08CIRCLED SANS-SERIF DIGIT ONE;33TWO;34HREE;33FOUR;34IVE;33SIX;34EVEN;33EIGHT;33NINE
27NUMBER TEN;08NEGATIVE CIRCLED SANS-SERIF DIGIT ONE;42TWO;43HREE;42FOUR;43IVE;42SIX;43EVEN
42EIGHT;42NINE;36NUMBER TEN;00HEAVY WIDE-HEADED RIGHTWARDS ARROW;06PLUS SIGN;06MINUS SIGN
06DIVISION SIGN;06SOUTH EAST ARROW;06RIGHTWARDS ARROW;06NORTH EAST ARROW
00DRAFTING POINT RIGHTWARDS ARROW;00HEAVY ROUND-TIPPED RIGHTWARDS ARROW
00TRIANGLE-HEADED RIGHTWARDS ARROW;00HEAVY TRIANGLE-HEADED RIGHTWARDS ARROW
00DASHED TRIANGLE-HEADED RIGHTWARDS ARROW;00HEAVY DASHED TRIANGLE-HEADED RIGHTWARDS ARROW
00BLACK RIGHTWARDS ARROW;00THREE-D TOP-LIGHTED RIGHTWARDS ARROWHEAD
08BOTTOM-LIGHTED RIGHTWARDS ARROWHEAD;00BLACK RIGHTWARDS ARROWHEAD
00HEAVY BLACK CURVED DOWNWARDS AND RIGHTWARDS ARROW;19UPWARDS AND RIGHTWARDS ARROW
00SQUAT BLACK RIGHTWARDS ARROW;00HEAVY CONCAVE-POINTED BLACK RIGHTWARDS ARROW
00RIGHT-SHADED WHITE RIGHTWARDS ARROW;00LEFT-SHADED WHITE RIGHTWARDS ARROW
00BACK-TILTED SHADOWED WHITE RIGHTWARDS ARROW;00FRONT-TILTED SHADOWED WHITE RIGHTWARDS ARROW
00HEAVY LOWER RIGHT-SHADOWED WHITE RIGHTWARDS ARROW;06UPPER RIGHT-SHADOWED WHITE RIGHTWARDS ARROW
00NOTCHED LOWER RIGHT-SHADOWED WHITE RIGHTWARDS ARROW;00CURLY LOOP
00NOTCHED UPPER RIGHT-SHADOWED WHITE RIGHTWARDS ARROW;00CIRCLED HEAVY WHITE RIGHTWARDS ARROW
00WHITE-FEATHERED RIGHTWARDS ARROW;00BLACK-FEATHERED SOUTH EAST ARROW;16RIGHTWARDS ARROW
16NORTH EAST ARROW;00HEAVY BLACK-FEATHERED SOUTH EAST ARROW;22RIGHTWARDS ARROW;22NORTH EAST ARROW
00TEARDROP-BARBED RIGHTWARDS ARROW;00HEAVY TEARDROP-SHANKED RIGHTWARDS ARROW
00WEDGE-TAILED RIGHTWARDS ARROW;00HEAVY WEDGE-TAILED RIGHTWARDS ARROW
00OPEN-OUTLINED RIGHTWARDS ARROW;00DOUBLE CURLY LOOP;00THREE DIMENSIONAL ANGLE
00WHITE TRIANGLE CONTAINING SMALL WHITE TRIANGLE;00PERPENDICULAR;00OPEN SUBSET;07PERSET
00LEFT S-SHAPED BAG DELIMITER;00RIGHT S-SHAPED BAG DELIMITER;00OR WITH DOT INSIDE
00REVERSE SOLIDUS PRECEDING SUBSET;00SUPERSET PRECEDING SOLIDUS
00VERTICAL BAR WITH HORIZONTAL STROKE;00MATHEMATICAL RISING DIAGONAL;00LONG DIVISION
00MATHEMATICAL FALLING DIAGONAL;00SQUARED LOGICAL AND;16OR;00WHITE DIAMOND WITH CENTRED DOT
00AND WITH DOT;00ELEMENT OF OPENING UPWARDS;00LOWER RIGHT CORNER WITH DOT
00UPPER LEFT CORNER WITH DOT;00LEFT OUTER JOIN;00RIGHT OUTER JOIN;00FULL OUTER JOIN
00LARGE UP TACK;06DOWN TACK;01EFT AND RIGHT DOUBLE TURNSTILE;15TACK;05MULTIMAP;01ONG RIGHT TACK
05LEFT TACK;00UP TACK WITH CIRCLE ABOVE;00LOZENGE DIVIDED BY HORIZONTAL RULE
00WHITE CONCAVE-SIDED DIAMOND;27 WITH LEFTWARDS TICK;33RIGHTWARDS TICK
06SQUARE WITH LEFTWARDS TICK;18RIGHTWARDS TICK;00MATHEMATICAL LEFT WHITE SQUARE BRACKET
13RIGHT WHITE SQUARE BRACKET;13LEFT ANGLE BRACKET;13RIGHT ANGLE BRACKET
13LEFT DOUBLE ANGLE BRACKET;13RIGHT DOUBLE ANGLE BRACKET;13LEFT WHITE TORTOISE SHELL BRACKET
13RIGHT WHITE TORTOISE SHELL BRACKET;13LEFT FLATTENED PARENTHESIS;13RIGHT FLATTENED PARENTHESIS
00UPWARDS QUADRUPLE ARROW;00DOWNWARDS QUADRUPLE ARROW;00ANTICLOCKWISE GAPPED CIRCLE ARROW
00CLOCKWISE GAPPED CIRCLE ARROW;00RIGHT ARROW WITH CIRCLED PLUS;00LONG LEFTWARDS ARROW
05RIGHTWARDS ARROW;05LEFT RIGHT ARROW;09WARDS DOUBLE ARROW;05RIGHTWARDS DOUBLE ARROW
05LEFT RIGHT DOUBLE ARROW;09WARDS ARROW FROM BAR;05RIGHTWARDS ARROW FROM BAR
05LEFTWARDS DOUBLE ARROW FROM BAR;05RIGHTWARDS DOUBLE ARROW FROM BAR;16SQUIGGLE ARROW
00BRAILLE PATTERN BLANK;16DOTS-1;212;2112;213;2113;2123;21123;214;2114;2124;21124;2134;21134;21234
211234;215;2115;2125;21125;2135;21135;21235;211235;2145;21145;21245;211245;21345;211345;212345
2112345;216;2116;2126;21126;2136;21136;21236;211236;2146;21146;21246;211246;21346;211346;212346
2112346;2156;21156;21256;211256;21356;211356;212356;2112356;21456;211456;212456;2112456;213456
2113456;2123456;21123456;217;2117;2127;21127;2137;21137;21237;211237;2147;21147;21247;211247;21347
211347;212347;2112347;2157;21157;21257;211257;21357;211357;212357;2112357;21457;211457;212457
2112457;213457;2113457;2123457;21123457;2167;21167;21267;211267;21367;211367;212367;2112367;21467
211467;212467;2112467;213467;2113467;2123467;21123467;21567;211567;212567;2112567;213567;2113567
2123567;21123567;214567;2114567;2124567;21124567;2134567;21134567;21234567;211234567;218;2118;2128
21128;2138;21138;21238;211238;2148;21148;21248;211248;21348;211348;212348;2112348;2158;21158;21258
211258;21358;211358;212358;2112358;21458;211458;212458;2112458;213458;2113458;2123458;21123458
2168;21168;21268;211268;21368;211368;212368;2112368;21468;211468;212468;2112468;213468;2113468
2123468;21123468;21568;211568;212568;2112568;213568;2113568;2123568;21123568;214568;2114568
2124568;21124568;2134568;21134568;21234568;211234568;2178;21178;21278;211278;21378;211378;212378
2112378;21478;211478;212478;2112478;213478;2113478;2123478;21123478;21578;211578;212578;2112578
213578;2113578;2123578;21123578;214578;2114578;2124578;21124578;2134578;21134578;21234578
211234578;21678;211678;212678;2112678;213678;2113678;2123678;21123678;214678;2114678;2124678
21124678;2134678;21134678;21234678;211234678;215678;2115678;2125678;21125678;2135678;21135678
21235678;211235678;2145678;21145678;21245678;211245678;21345678;211345678;212345678;2112345678
00RIGHTWARDS TWO-HEADED ARROW WITH VERTICAL STROKE;33DOUBLE VERTICAL STROKE
00LEFTWARDS DOUBLE ARROW WITH VERTICAL STROKE;00RIGHTWARDS DOUBLE ARROW WITH VERTICAL STROKE
00LEFT RIGHT DOUBLE ARROW WITH VERTICAL STROKE;00RIGHTWARDS TWO-HEADED ARROW FROM BAR
00LEFTWARDS DOUBLE ARROW FROM BAR;00RIGHTWARDS DOUBLE ARROW FROM BAR
00DOWNWARDS ARROW WITH HORIZONTAL STROKE;00UPWARDS ARROW WITH HORIZONTAL STROKE;08TRIPLE ARROW
00DOWNWARDS TRIPLE ARROW;00LEFTWARDS DOUBLE DASH ARROW;00RIGHTWARDS DOUBLE DASH ARROW
00LEFTWARDS TRIPLE DASH ARROW;00RIGHTWARDS TRIPLE DASH ARROW;12WO-HEADED TRIPLE DASH ARROW
11ARROW WITH DOTTED STEM;00UPWARDS ARROW TO BAR;00DOWNWARDS ARROW TO BAR
00RIGHTWARDS ARROW WITH TAIL WITH VERTICAL STROKE;32DOUBLE VERTICAL STROKE
11TWO-HEADED ARROW WITH TAIL;37 WITH VERTICAL STROKE;43DOUBLE VERTICAL STROKE
00LEFTWARDS ARROW-TAIL;00RIGHTWARDS ARROW-TAIL;00LEFTWARDS DOUBLE ARROW-TAIL
00RIGHTWARDS DOUBLE ARROW-TAIL;00LEFTWARDS ARROW TO BLACK DIAMOND
00RIGHTWARDS ARROW TO BLACK DIAMOND;00LEFTWARDS ARROW FROM BAR TO BLACK DIAMOND
00RIGHTWARDS ARROW FROM BAR TO BLACK DIAMOND;00NORTH WEST AND SOUTH EAST ARROW
06EAST AND SOUTH WEST ARROW;06WEST ARROW WITH HOOK;06EAST ARROW WITH HOOK
00SOUTH EAST ARROW WITH HOOK;06WEST ARROW WITH HOOK;00NORTH WEST ARROW AND NORTH EAST ARROW
06EAST ARROW AND SOUTH EAST ARROW;00SOUTH EAST ARROW AND SOUTH WEST ARROW
06WEST ARROW AND NORTH WEST ARROW;00RISING DIAGONAL CROSSING FALLING DIAGONAL
00FALLING DIAGONAL CROSSING RISING DIAGONAL;00SOUTH EAST ARROW CROSSING NORTH EAST ARROW
00NORTH EAST ARROW CROSSING SOUTH EAST ARROW;00FALLING DIAGONAL CROSSING NORTH EAST ARROW
00RISING DIAGONAL CROSSING SOUTH EAST ARROW;00NORTH EAST ARROW CROSSING NORTH WEST ARROW
06WEST ARROW CROSSING NORTH EAST ARROW;00WAVE ARROW POINTING DIRECTLY RIGHT
00ARROW POINTING RIGHTWARDS THEN CURVING UPWARDS;39DOWNWARDS;15DOWNWARDS THEN CURVING LEFTWARDS
38RIGHTWARDS;00RIGHT-SIDE ARC CLOCKWISE ARROW;00LEFT-SIDE ARC ANTICLOCKWISE ARROW
00TOP ARC ANTICLOCKWISE ARROW;00BOTTOM ARC ANTICLOCKWISE ARROW
00TOP ARC CLOCKWISE ARROW WITH MINUS;08ANTICLOCKWISE ARROW WITH PLUS
00LOWER RIGHT SEMICIRCULAR CLOCKWISE ARROW;06LEFT SEMICIRCULAR ANTICLOCKWISE ARROW
00ANTICLOCKWISE CLOSED CIRCLE ARROW;00CLOCKWISE CLOSED CIRCLE ARROW
00RIGHTWARDS ARROW ABOVE SHORT LEFTWARDS ARROW;00LEFTWARDS ARROW ABOVE SHORT RIGHTWARDS ARROW
00SHORT RIGHTWARDS ARROW ABOVE LEFTWARDS ARROW;00RIGHTWARDS ARROW WITH PLUS BELOW
00LEFTWARDS ARROW WITH PLUS BELOW;00RIGHTWARDS ARROW THROUGH X
00LEFT RIGHT ARROW THROUGH SMALL CIRCLE;00UPWARDS TWO-HEADED ARROW FROM SMALL CIRCLE
00LEFT BARB UP RIGHT BARB DOWN HARPOON;10DOWN RIGHT BARB UP HARPOON
00UP BARB RIGHT DOWN BARB LEFT HARPOON;08LEFT DOWN BARB RIGHT HARPOON
00LEFT BARB UP RIGHT BARB UP HARPOON;00UP BARB RIGHT DOWN BARB RIGHT HARPOON
00LEFT BARB DOWN RIGHT BARB DOWN HARPOON;00UP BARB LEFT DOWN BARB LEFT HARPOON
00LEFTWARDS HARPOON WITH BARB UP TO BAR;00RIGHTWARDS HARPOON WITH BARB UP TO BAR
00UPWARDS HARPOON WITH BARB RIGHT TO BAR;00DOWNWARDS HARPOON WITH BARB RIGHT TO BAR
00LEFTWARDS HARPOON WITH BARB DOWN TO BAR;00RIGHTWARDS HARPOON WITH BARB DOWN TO BAR
00UPWARDS HARPOON WITH BARB LEFT TO BAR;00DOWNWARDS HARPOON WITH BARB LEFT TO BAR
00LEFTWARDS HARPOON WITH BARB UP FROM BAR;00RIGHTWARDS HARPOON WITH BARB UP FROM BAR
00UPWARDS HARPOON WITH BARB RIGHT FROM BAR;00DOWNWARDS HARPOON WITH BARB RIGHT FROM BAR
00LEFTWARDS HARPOON WITH BARB DOWN FROM BAR;00RIGHTWARDS HARPOON WITH BARB DOWN FROM BAR
00UPWARDS HARPOON WITH BARB LEFT FROM BAR;00DOWNWARDS HARPOON WITH BARB LEFT FROM BAR
00LEFTWARDS HARPOON WITH BARB UP ABOVE LEFTWARDS HARPOON WITH BARB DOWN
00UPWARDS HARPOON WITH BARB LEFT BESIDE UPWARDS HARPOON WITH BARB RIGHT
00RIGHTWARDS HARPOON WITH BARB UP ABOVE RIGHTWARDS HARPOON WITH BARB DOWN
00DOWNWARDS HARPOON WITH BARB LEFT BESIDE DOWNWARDS HARPOON WITH BARB RIGHT
00LEFTWARDS HARPOON WITH BARB UP ABOVE RIGHTWARDS HARPOON WITH BARB UP
28DOWN ABOVE RIGHTWARDS HARPOON WITH BARB DOWN
00RIGHTWARDS HARPOON WITH BARB UP ABOVE LEFTWARDS HARPOON WITH BARB UP
29DOWN ABOVE LEFTWARDS HARPOON WITH BARB DOWN;00LEFTWARDS HARPOON WITH BARB UP ABOVE LONG DASH
28DOWN BELOW LONG DASH;00RIGHTWARDS HARPOON WITH BARB UP ABOVE LONG DASH;29DOWN BELOW LONG DASH
00UPWARDS HARPOON WITH BARB LEFT BESIDE DOWNWARDS HARPOON WITH BARB RIGHT
00DOWNWARDS HARPOON WITH BARB LEFT BESIDE UPWARDS HARPOON WITH BARB RIGHT
00RIGHT DOUBLE ARROW WITH ROUNDED HEAD;00EQUALS SIGN ABOVE RIGHTWARDS ARROW
00TILDE OPERATOR ABOVE RIGHTWARDS ARROW;00LEFTWARDS ARROW ABOVE TILDE OPERATOR
00RIGHTWARDS ARROW ABOVE TILDE OPERATOR;23ALMOST EQUAL TO;00LESS-THAN ABOVE LEFTWARDS ARROW
02FTWARDS ARROW THROUGH LESS-THAN;00GREATER-THAN ABOVE RIGHTWARDS ARROW
00SUBSET ABOVE RIGHTWARDS ARROW;00LEFTWARDS ARROW THROUGH SUBSET;00SUPERSET ABOVE LEFTWARDS ARROW
00LEFT FISH TAIL;00RIGHT FISH TAIL;00UP FISH TAIL;00DOWN FISH TAIL;00TRIPLE VERTICAL BAR DELIMITER
00Z NOTATION SPOT;11TYPE COLON;00LEFT WHITE CURLY BRACKET;00RIGHT WHITE CURLY BRACKET
00LEFT WHITE PARENTHESIS;00RIGHT WHITE PARENTHESIS;00Z NOTATION LEFT IMAGE BRACKET
11RIGHT IMAGE BRACKET;11LEFT BINDING BRACKET;11RIGHT BINDING BRACKET
00LEFT SQUARE BRACKET WITH UNDERBAR;00RIGHT SQUARE BRACKET WITH UNDERBAR
00LEFT SQUARE BRACKET WITH TICK IN TOP CORNER;00RIGHT SQUARE BRACKET WITH TICK IN BOTTOM CORNER
00LEFT SQUARE BRACKET WITH TICK IN BOTTOM CORNER;00RIGHT SQUARE BRACKET WITH TICK IN TOP CORNER
00LEFT ANGLE BRACKET WITH DOT;00RIGHT ANGLE BRACKET WITH DOT;00LEFT ARC LESS-THAN BRACKET
00RIGHT ARC GREATER-THAN BRACKET;00DOUBLE LEFT ARC GREATER-THAN BRACKET
07RIGHT ARC LESS-THAN BRACKET;00LEFT BLACK TORTOISE SHELL BRACKET
00RIGHT BLACK TORTOISE SHELL BRACKET;00DOTTED FENCE;00VERTICAL ZIGZAG LINE
00MEASURED ANGLE OPENING LEFT;00RIGHT ANGLE VARIANT WITH SQUARE;00MEASURED RIGHT ANGLE WITH DOT
00ANGLE WITH S INSIDE;01CUTE ANGLE;00SPHERICAL ANGLE OPENING LEFT;24UP;00TURNED ANGLE
00REVERSED ANGLE;00ANGLE WITH UNDERBAR;00REVERSED ANGLE WITH UNDERBAR;00OBLIQUE ANGLE OPENING UP
22DOWN;00MEASURED ANGLE WITH OPEN ARM ENDING IN ARROW POINTING UP AND RIGHT;61LEFT
54DOWN AND RIGHT;63LEFT;54RIGHT AND UP;54LEFT AND UP;54RIGHT AND DOWN;54LEFT AND DOWN
00REVERSED EMPTY SET;00EMPTY SET WITH OVERBAR;15SMALL CIRCLE ABOVE;15RIGHT ARROW ABOVE
15LEFT ARROW ABOVE;00CIRCLE WITH HORIZONTAL BAR;06D VERTICAL BAR;08PARALLEL;08REVERSE SOLIDUS
08PERPENDICULAR;06 DIVIDED BY HORIZONTAL BAR AND TOP HALF DIVIDED BY VERTICAL BAR
07WITH SUPERIMPOSED X;06D ANTICLOCKWISE-ROTATED DIVISION SIGN;00UP ARROW THROUGH CIRCLE
00CIRCLED WHITE BULLET;08BULLET;08LESS-THAN;08GREATER-THAN;06 WITH SMALL CIRCLE TO THE RIGHT
12TWO HORIZONTAL STROKES TO THE RIGHT;00SQUARED RISING DIAGONAL SLASH;08FALLING DIAGONAL SLASH
08ASTERISK;08SMALL CIRCLE;09QUARE;00TWO JOINED SQUARES;01RIANGLE WITH DOT ABOVE;14UNDERBAR
00S IN TRIANGLE;00TRIANGLE WITH SERIFS AT BOTTOM;00RIGHT TRIANGLE ABOVE LEFT TRIANGLE
00LEFT TRIANGLE BESIDE VERTICAL BAR;00VERTICAL BAR BESIDE RIGHT TRIANGLE
00BOWTIE WITH LEFT HALF BLACK;12RIGHT HALF BLACK;01LACK BOWTIE;00TIMES WITH LEFT HALF BLACK
11RIGHT HALF BLACK;00WHITE HOURGLASS;00BLACK HOURGLASS;00LEFT WIGGLY FENCE;00RIGHT WIGGLY FENCE
00LEFT DOUBLE WIGGLY FENCE;00RIGHT DOUBLE WIGGLY FENCE;00INCOMPLETE INFINITY;00TIE OVER INFINITY
00INFINITY NEGATED WITH VERTICAL BAR;00DOUBLE-ENDED MULTIMAP;00SQUARE WITH CONTOURED OUTLINE
00INCREASES AS;00SHUFFLE PRODUCT;00EQUALS SIGN AND SLANTED PARALLEL;32 WITH TILDE ABOVE
00IDENTICAL TO AND SLANTED PARALLEL;00GLEICH STARK;00THERMODYNAMIC
00DOWN-POINTING TRIANGLE WITH LEFT HALF BLACK;28RIGHT HALF BLACK;00BLACK DIAMOND WITH DOWN ARROW
06LOZENGE;00WHITE CIRCLE WITH DOWN ARROW;00BLACK CIRCLE WITH DOWN ARROW
00ERROR-BARRED WHITE SQUARE;13BLACK SQUARE;13WHITE DIAMOND;13BLACK DIAMOND;13WHITE CIRCLE
13BLACK CIRCLE;00RULE-DELAYED;01EVERSE SOLIDUS OPERATOR;00SOLIDUS WITH OVERBAR
00REVERSE SOLIDUS WITH HORIZONTAL STROKE;00BIG SOLIDUS;04REVERSE SOLIDUS;00DOUBLE PLUS
00TRIPLE PLUS;00LEFT-POINTING CURVED ANGLE BRACKET;00RIGHT-POINTING CURVED ANGLE BRACKET;00TINY
00MINY;00N-ARY CIRCLED DOT OPERATOR;14PLUS OPERATOR;14TIMES OPERATOR;06UNION OPERATOR WITH DOT
26PLUS;06SQUARE INTERSECTION OPERATOR;13UNION OPERATOR;00TWO LOGICAL AND OPERATOR;12OR OPERATOR
00N-ARY TIMES OPERATOR;00MODULO TWO SUM;00SUMMATION WITH INTEGRAL;00QUADRUPLE INTEGRAL OPERATOR
00FINITE PART INTEGRAL;00INTEGRAL WITH DOUBLE STROKE;09AVERAGE WITH SLASH;00CIRCULATION FUNCTION
00ANTICLOCKWISE INTEGRATION;00LINE INTEGRATION WITH RECTANGULAR PATH AROUND POLE
22SEMICIRCULAR PATH AROUND POLE;17NOT INCLUDING THE POLE;00INTEGRAL AROUND A POINT OPERATOR
00QUATERNION INTEGRAL OPERATOR;00INTEGRAL WITH LEFTWARDS ARROW WITH HOOK;14TIMES SIGN
14INTERSECTION;14UNION;14OVERBAR;14UNDERBAR;00JOIN;00LARGE LEFT TRIANGLE OPERATOR
00Z NOTATION SCHEMA COMPOSITION;18PIPING;19ROJECTION;00PLUS SIGN WITH SMALL CIRCLE ABOVE
15CIRCUMFLEX ACCENT ABOVE;15TILDE ABOVE;15DOT BELOW;15TILDE BELOW;15SUBSCRIPT TWO;15BLACK TRIANGLE
00MINUS SIGN WITH COMMA ABOVE;16DOT BELOW;16FALLING DOTS;16RISING DOTS
00PLUS SIGN IN LEFT HALF CIRCLE;13RIGHT HALF CIRCLE;00VECTOR OR CROSS PRODUCT
00MULTIPLICATION SIGN WITH DOT ABOVE;25UNDERBAR;00SEMIDIRECT PRODUCT WITH BOTTOM CLOSED
01MASH PRODUCT;00MULTIPLICATION SIGN IN LEFT HALF CIRCLE;23RIGHT HALF CIRCLE
00CIRCLED MULTIPLICATION SIGN WITH CIRCUMFLEX ACCENT;00MULTIPLICATION SIGN IN DOUBLE CIRCLE
00CIRCLED DIVISION SIGN;00PLUS SIGN IN TRIANGLE;00MINUS SIGN IN TRIANGLE
01ULTIPLICATION SIGN IN TRIANGLE;00INTERIOR PRODUCT;00RIGHTHAND INTERIOR PRODUCT
00Z NOTATION RELATIONAL COMPOSITION;00AMALGAMATION OR COPRODUCT;00INTERSECTION WITH DOT
00UNION WITH MINUS SIGN;11OVERBAR;00INTERSECTION WITH OVERBAR;18LOGICAL AND
00UNION WITH LOGICAL OR;06ABOVE INTERSECTION;00INTERSECTION ABOVE UNION
00UNION ABOVE BAR ABOVE INTERSECTION;00INTERSECTION ABOVE BAR ABOVE UNION
00UNION BESIDE AND JOINED WITH UNION;00INTERSECTION BESIDE AND JOINED WITH INTERSECTION
00CLOSED UNION WITH SERIFS;07INTERSECTION WITH SERIFS;00DOUBLE SQUARE INTERSECTION;14UNION
00CLOSED UNION WITH SERIFS AND SMASH PRODUCT;00LOGICAL AND WITH DOT ABOVE;08OR WITH DOT ABOVE
00DOUBLE LOGICAL AND;15OR;00TWO INTERSECTING LOGICAL AND;25OR;00SLOPING LARGE OR;14AND
00LOGICAL OR OVERLAPPING LOGICAL AND;08AND WITH MIDDLE STEM;08OR WITH MIDDLE STEM
08AND WITH HORIZONTAL DASH;08OR WITH HORIZONTAL DASH;08AND WITH DOUBLE OVERBAR;17UNDERBAR
17DOUBLE UNDERBAR;00SMALL VEE WITH UNDERBAR;00LOGICAL OR WITH DOUBLE OVERBAR;23UNDERBAR
00Z NOTATION DOMAIN ANTIRESTRICTION;11RANGE ANTIRESTRICTION;00EQUALS SIGN WITH DOT BELOW
00IDENTICAL WITH DOT ABOVE;00TRIPLE HORIZONTAL BAR WITH DOUBLE VERTICAL STROKE
27TRIPLE VERTICAL STROKE;01ILDE OPERATOR WITH DOT ABOVE;20RISING DOTS;00SIMILAR MINUS SIMILAR
00CONGRUENT WITH DOT ABOVE;00EQUALS WITH ASTERISK;00ALMOST EQUAL TO WITH CIRCUMFLEX ACCENT
01PPROXIMATELY EQUAL OR EQUAL TO;00EQUALS SIGN ABOVE PLUS SIGN;00PLUS SIGN ABOVE EQUALS SIGN
00EQUALS SIGN ABOVE TILDE OPERATOR;00DOUBLE COLON EQUAL;00TWO CONSECUTIVE EQUALS SIGNS
01HREE CONSECUTIVE EQUALS SIGNS;00EQUALS SIGN WITH TWO DOTS ABOVE AND TWO DOTS BELOW
03IVALENT WITH FOUR DOTS ABOVE;00LESS-THAN WITH CIRCLE INSIDE;00GREATER-THAN WITH CIRCLE INSIDE
00LESS-THAN WITH QUESTION MARK ABOVE;00GREATER-THAN WITH QUESTION MARK ABOVE
00LESS-THAN OR SLANTED EQUAL TO;00GREATER-THAN OR SLANTED EQUAL TO
00LESS-THAN OR SLANTED EQUAL TO WITH DOT INSIDE;00GREATER-THAN OR SLANTED EQUAL TO WITH DOT INSIDE
00LESS-THAN OR SLANTED EQUAL TO WITH DOT ABOVE;00GREATER-THAN OR SLANTED EQUAL TO WITH DOT ABOVE
00LESS-THAN OR SLANTED EQUAL TO WITH DOT ABOVE RIGHT
00GREATER-THAN OR SLANTED EQUAL TO WITH DOT ABOVE LEFT;00LESS-THAN OR APPROXIMATE
00GREATER-THAN OR APPROXIMATE;00LESS-THAN AND SINGLE-LINE NOT EQUAL TO
00GREATER-THAN AND SINGLE-LINE NOT EQUAL TO;00LESS-THAN AND NOT APPROXIMATE
00GREATER-THAN AND NOT APPROXIMATE;00LESS-THAN ABOVE DOUBLE-LINE EQUAL ABOVE GREATER-THAN
00GREATER-THAN ABOVE DOUBLE-LINE EQUAL ABOVE LESS-THAN;00LESS-THAN ABOVE SIMILAR OR EQUAL
00GREATER-THAN ABOVE SIMILAR OR EQUAL;00LESS-THAN ABOVE SIMILAR ABOVE GREATER-THAN
00GREATER-THAN ABOVE SIMILAR ABOVE LESS-THAN
00LESS-THAN ABOVE GREATER-THAN ABOVE DOUBLE-LINE EQUAL
00GREATER-THAN ABOVE LESS-THAN ABOVE DOUBLE-LINE EQUAL
00LESS-THAN ABOVE SLANTED EQUAL ABOVE GREATER-THAN ABOVE SLANTED EQUAL
00GREATER-THAN ABOVE SLANTED EQUAL ABOVE LESS-THAN ABOVE SLANTED EQUAL
00SLANTED EQUAL TO OR LESS-THAN;20GREATER-THAN;20LESS-THAN WITH DOT INSIDE
20GREATER-THAN WITH DOT INSIDE;00DOUBLE-LINE EQUAL TO OR LESS-THAN;24GREATER-THAN
12SLANTED EQUAL TO OR LESS-THAN;32GREATER-THAN;00SIMILAR OR LESS-THAN;11GREATER-THAN
08ABOVE LESS-THAN ABOVE EQUALS SIGN;14GREATER-THAN ABOVE EQUALS SIGN;00DOUBLE NESTED LESS-THAN
14GREATER-THAN;14LESS-THAN WITH UNDERBAR;00GREATER-THAN OVERLAPPING LESS-THAN;13BESIDE LESS-THAN
00LESS-THAN CLOSED BY CURVE;00GREATER-THAN CLOSED BY CURVE
00LESS-THAN CLOSED BY CURVE ABOVE SLANTED EQUAL;00GREATER-THAN CLOSED BY CURVE ABOVE SLANTED EQUAL
00SMALLER THAN;00LARGER THAN;00SMALLER THAN OR EQUAL TO;00LARGER THAN OR EQUAL TO
00EQUALS SIGN WITH BUMPY ABOVE;00PRECEDES ABOVE SINGLE-LINE EQUALS SIGN
00SUCCEEDS ABOVE SINGLE-LINE EQUALS SIGN;00PRECEDES ABOVE SINGLE-LINE NOT EQUAL TO
00SUCCEEDS ABOVE SINGLE-LINE NOT EQUAL TO;00PRECEDES ABOVE EQUALS SIGN
00SUCCEEDS ABOVE EQUALS SIGN;00PRECEDES ABOVE NOT EQUAL TO;00SUCCEEDS ABOVE NOT EQUAL TO
00PRECEDES ABOVE ALMOST EQUAL TO;00SUCCEEDS ABOVE ALMOST EQUAL TO
00PRECEDES ABOVE NOT ALMOST EQUAL TO;00SUCCEEDS ABOVE NOT ALMOST EQUAL TO;00DOUBLE PRECEDES
07SUCCEEDS;00SUBSET WITH DOT;02PERSET WITH DOT;02BSET WITH PLUS SIGN BELOW
02PERSET WITH PLUS SIGN BELOW;02BSET WITH MULTIPLICATION SIGN BELOW
02PERSET WITH MULTIPLICATION SIGN BELOW;02BSET OF OR EQUAL TO WITH DOT ABOVE
02PERSET OF OR EQUAL TO WITH DOT ABOVE;02BSET OF ABOVE EQUALS SIGN;02PERSET OF ABOVE EQUALS SIGN
02BSET OF ABOVE TILDE OPERATOR;02PERSET OF ABOVE TILDE OPERATOR;02BSET OF ABOVE ALMOST EQUAL TO
02PERSET OF ABOVE ALMOST EQUAL TO;02BSET OF ABOVE NOT EQUAL TO;02PERSET OF ABOVE NOT EQUAL TO
01QUARE LEFT OPEN BOX OPERATOR;07RIGHT OPEN BOX OPERATOR;00CLOSED SUBSET;09PERSET
09BSET OR EQUAL TO;09PERSET OR EQUAL TO;00SUBSET ABOVE SUPERSET;02PERSET ABOVE SUBSET
02BSET ABOVE SUBSET;02PERSET ABOVE SUPERSET;09BESIDE SUBSET;16AND JOINED BY DASH WITH SUBSET
00ELEMENT OF OPENING DOWNWARDS;00PITCHFORK WITH TEE TOP;00TRANSVERSAL INTERSECTION;00FORKING
00NONFORKING;00SHORT LEFT TACK;06DOWN TACK;06UP TACK;00PERPENDICULAR WITH S
00VERTICAL BAR TRIPLE RIGHT TURNSTILE;00DOUBLE VERTICAL BAR LEFT TURNSTILE
00VERTICAL BAR DOUBLE LEFT TURNSTILE;00DOUBLE VERTICAL BAR DOUBLE LEFT TURNSTILE
00LONG DASH FROM LEFT MEMBER OF DOUBLE VERTICAL;00SHORT DOWN TACK WITH OVERBAR
06UP TACK WITH UNDERBAR;14ABOVE SHORT DOWN TACK;00DOUBLE DOWN TACK;07UP TACK;07STROKE NOT SIGN
00REVERSED DOUBLE STROKE NOT SIGN;00DOES NOT DIVIDE WITH REVERSED NEGATION SLASH
00VERTICAL LINE WITH CIRCLE ABOVE;26BELOW;00DOWN TACK WITH CIRCLE BELOW
00PARALLEL WITH HORIZONTAL STROKE;14TILDE OPERATOR;00TRIPLE VERTICAL BAR BINARY RELATION
20WITH HORIZONTAL STROKE;07COLON OPERATOR;07NESTED LESS-THAN;14GREATER-THAN
00DOUBLE-LINE SLANTED LESS-THAN OR EQUAL TO;20GREATER-THAN OR EQUAL TO
00TRIPLE SOLIDUS BINARY RELATION;00LARGE TRIPLE VERTICAL BAR OPERATOR;00DOUBLE SOLIDUS OPERATOR
00WHITE VERTICAL BAR;00N-ARY WHITE VERTICAL BAR;01ORTH EAST WHITE ARROW;06WEST WHITE ARROW
00SOUTH EAST WHITE ARROW;06WEST WHITE ARROW;00LEFT RIGHT WHITE ARROW;04WARDS BLACK ARROW
00UPWARDS BLACK ARROW;00DOWNWARDS BLACK ARROW;00NORTH EAST BLACK ARROW;06WEST BLACK ARROW
00SOUTH EAST BLACK ARROW;06WEST BLACK ARROW;00LEFT RIGHT BLACK ARROW;00UP DOWN BLACK ARROW
00RIGHTWARDS ARROW WITH TIP DOWNWARDS;26UPWARDS;00LEFTWARDS ARROW WITH TIP DOWNWARDS;25UPWARDS
00SQUARE WITH TOP HALF BLACK;12BOTTOM HALF BLACK;12UPPER RIGHT DIAGONAL HALF BLACK
12LOWER LEFT DIAGONAL HALF BLACK;00DIAMOND WITH LEFT HALF BLACK;13RIGHT HALF BLACK
13TOP HALF BLACK;13BOTTOM HALF BLACK;01OTTED SQUARE;00BLACK LARGE SQUARE;00WHITE LARGE SQUARE
00BLACK VERY SMALL SQUARE;00WHITE VERY SMALL SQUARE;00BLACK PENTAGON;00WHITE PENTAGON;06HEXAGON
00BLACK HEXAGON;00HORIZONTAL BLACK HEXAGON;00BLACK LARGE CIRCLE;06MEDIUM DIAMOND
00WHITE MEDIUM DIAMOND;00BLACK MEDIUM LOZENGE;00WHITE MEDIUM LOZENGE;00BLACK SMALL DIAMOND
12LOZENGE;00WHITE SMALL LOZENGE;00BLACK HORIZONTAL ELLIPSE;00WHITE HORIZONTAL ELLIPSE
00BLACK VERTICAL ELLIPSE;00WHITE VERTICAL ELLIPSE;00LEFT ARROW WITH SMALL CIRCLE
00THREE LEFTWARDS ARROWS;00LEFT ARROW WITH CIRCLED PLUS;01ONG LEFTWARDS SQUIGGLE ARROW
01EFTWARDS TWO-HEADED ARROW WITH VERTICAL STROKE;32DOUBLE VERTICAL STROKE;27FROM BAR
21TRIPLE DASH ARROW;10ARROW WITH DOTTED STEM;21TAIL WITH VERTICAL STROKE;31DOUBLE VERTICAL STROKE
10TWO-HEADED ARROW WITH TAIL;36 WITH VERTICAL STROKE;42DOUBLE VERTICAL STROKE;10ARROW THROUGH X
00WAVE ARROW POINTING DIRECTLY LEFT;00EQUALS SIGN ABOVE LEFTWARDS ARROW
00REVERSE TILDE OPERATOR ABOVE LEFTWARDS ARROW;00LEFTWARDS ARROW ABOVE REVERSE ALMOST EQUAL TO
00RIGHTWARDS ARROW THROUGH GREATER-THAN;25SUPERSET;00LEFTWARDS QUADRUPLE ARROW
00RIGHTWARDS QUADRUPLE ARROW;01EVERSE TILDE OPERATOR ABOVE RIGHTWARDS ARROW
01IGHTWARDS ARROW ABOVE REVERSE ALMOST EQUAL TO;00TILDE OPERATOR ABOVE LEFTWARDS ARROW
00LEFTWARDS ARROW ABOVE ALMOST EQUAL TO;22REVERSE TILDE OPERATOR
00RIGHTWARDS ARROW ABOVE REVERSE TILDE OPERATOR;00DOWNWARDS TRIANGLE-HEADED ZIGZAG ARROW
00SHORT SLANTED NORTH ARROW;06BACKSLANTED SOUTH ARROW;00WHITE MEDIUM STAR;00BLACK SMALL STAR
00WHITE SMALL STAR;00BLACK RIGHT-POINTING PENTAGON;00WHITE RIGHT-POINTING PENTAGON
00HEAVY LARGE CIRCLE;06OVAL WITH OVAL INSIDE;06CIRCLE WITH CIRCLE INSIDE;12;12D SALTIRE
00SLANTED NORTH ARROW WITH HOOKED HEAD;00BACKSLANTED SOUTH ARROW WITH HOOKED TAIL
00SLANTED NORTH ARROW WITH HORIZONTAL TAIL;00BACKSLANTED SOUTH ARROW WITH HORIZONTAL TAIL
01ENT ARROW POINTING DOWNWARDS THEN NORTH EAST
00SHORT BENT ARROW POINTING DOWNWARDS THEN NORTH EAST;00LEFTWARDS TRIANGLE-HEADED ARROW
00UPWARDS TRIANGLE-HEADED ARROW;00RIGHTWARDS TRIANGLE-HEADED ARROW
00DOWNWARDS TRIANGLE-HEADED ARROW;00LEFT RIGHT TRIANGLE-HEADED ARROW
00UP DOWN TRIANGLE-HEADED ARROW;00NORTH WEST TRIANGLE-HEADED ARROW;06EAST TRIANGLE-HEADED ARROW
00SOUTH EAST TRIANGLE-HEADED ARROW;06WEST TRIANGLE-HEADED ARROW
00LEFTWARDS TRIANGLE-HEADED DASHED ARROW;00UPWARDS TRIANGLE-HEADED DASHED ARROW
00RIGHTWARDS TRIANGLE-HEADED DASHED ARROW;00DOWNWARDS TRIANGLE-HEADED DASHED ARROW
00CLOCKWISE TRIANGLE-HEADED OPEN CIRCLE ARROW;00ANTICLOCKWISE TRIANGLE-HEADED OPEN CIRCLE ARROW
00LEFTWARDS TRIANGLE-HEADED ARROW TO BAR;00UPWARDS TRIANGLE-HEADED ARROW TO BAR
00RIGHTWARDS TRIANGLE-HEADED ARROW TO BAR;00DOWNWARDS TRIANGLE-HEADED ARROW TO BAR;+2B76
00NORTH WEST TRIANGLE-HEADED ARROW TO BAR;06EAST TRIANGLE-HEADED ARROW TO BAR
00SOUTH EAST TRIANGLE-HEADED ARROW TO BAR;06WEST TRIANGLE-HEADED ARROW TO BAR
00LEFTWARDS TRIANGLE-HEADED ARROW WITH DOUBLE HORIZONTAL STROKE
00UPWARDS TRIANGLE-HEADED ARROW WITH DOUBLE HORIZONTAL STROKE
00RIGHTWARDS TRIANGLE-HEADED ARROW WITH DOUBLE HORIZONTAL STROKE
00DOWNWARDS TRIANGLE-HEADED ARROW WITH DOUBLE HORIZONTAL STROKE;00HORIZONTAL TAB KEY
00VERTICAL TAB KEY;00LEFTWARDS TRIANGLE-HEADED ARROW OVER RIGHTWARDS TRIANGLE-HEADED ARROW
00UPWARDS TRIANGLE-HEADED ARROW LEFTWARDS OF DOWNWARDS TRIANGLE-HEADED ARROW
00RIGHTWARDS TRIANGLE-HEADED ARROW OVER LEFTWARDS TRIANGLE-HEADED ARROW
00DOWNWARDS TRIANGLE-HEADED ARROW LEFTWARDS OF UPWARDS TRIANGLE-HEADED ARROW
00LEFTWARDS TRIANGLE-HEADED PAIRED ARROWS;00UPWARDS TRIANGLE-HEADED PAIRED ARROWS
00RIGHTWARDS TRIANGLE-HEADED PAIRED ARROWS;00DOWNWARDS TRIANGLE-HEADED PAIRED ARROWS
00LEFTWARDS BLACK CIRCLED WHITE ARROW;00UPWARDS BLACK CIRCLED WHITE ARROW
00RIGHTWARDS BLACK CIRCLED WHITE ARROW;00DOWNWARDS BLACK CIRCLED WHITE ARROW
00ANTICLOCKWISE TRIANGLE-HEADED RIGHT U-SHAPED ARROW;30BOTTOM U-SHAPED ARROW;30LEFT U-SHAPED ARROW
30TOP U-SHAPED ARROW;00RETURN LEFT;07RIGHT;00NEWLINE LEFT;08RIGHT
00FOUR CORNER ARROWS CIRCLING ANTICLOCKWISE;00RIGHTWARDS BLACK ARROW;+2B97
00SYMBOL FOR TYPE A ELECTRONICS;00THREE-D TOP-LIGHTED LEFTWARDS EQUILATERAL ARROWHEAD
08RIGHT-LIGHTED UPWARDS EQUILATERAL ARROWHEAD;08TOP-LIGHTED RIGHTWARDS EQUILATERAL ARROWHEAD
08LEFT-LIGHTED DOWNWARDS EQUILATERAL ARROWHEAD;00BLACK LEFTWARDS EQUILATERAL ARROWHEAD
06UPWARDS EQUILATERAL ARROWHEAD;06RIGHTWARDS EQUILATERAL ARROWHEAD
06DOWNWARDS EQUILATERAL ARROWHEAD;00DOWNWARDS TRIANGLE-HEADED ARROW WITH LONG TIP LEFTWARDS
46RIGHTWARDS;00UPWARDS TRIANGLE-HEADED ARROW WITH LONG TIP LEFTWARDS;44RIGHTWARDS
00LEFTWARDS TRIANGLE-HEADED ARROW WITH LONG TIP UPWARDS
00RIGHTWARDS TRIANGLE-HEADED ARROW WITH LONG TIP UPWARDS
00LEFTWARDS TRIANGLE-HEADED ARROW WITH LONG TIP DOWNWARDS
00RIGHTWARDS TRIANGLE-HEADED ARROW WITH LONG TIP DOWNWARDS
00BLACK CURVED DOWNWARDS AND LEFTWARDS ARROW;27RIGHTWARDS ARROW;13UPWARDS AND LEFTWARDS ARROW
25RIGHTWARDS ARROW;13LEFTWARDS AND UPWARDS ARROW;13RIGHTWARDS AND UPWARDS ARROW
13LEFTWARDS AND DOWNWARDS ARROW;13RIGHTWARDS AND DOWNWARDS ARROW;00RIBBON ARROW DOWN LEFT;18RIGHT
13UP LEFT;16RIGHT;13LEFT UP;13RIGHT UP;13LEFT DOWN;13RIGHT DOWN
00UPWARDS WHITE ARROW FROM BAR WITH HORIZONTAL BAR;02 ARROWHEAD IN A RECTANGLE BOX
00OVERLAPPING WHITE SQUARES;18AND BLACK SQUARES;12BLACK SQUARES;00BALLOT BOX WITH LIGHT X
00CIRCLED X;08BOLD X;00BLACK SQUARE CENTRED;06DIAMOND CENTRED;00TURNED BLACK PENTAGON
00HORIZONTAL BLACK OCTAGON;00BLACK OCTAGON;06MEDIUM UP-POINTING TRIANGLE CENTRED
13DOWN-POINTING TRIANGLE CENTRED;13LEFT-POINTING TRIANGLE CENTRED
13RIGHT-POINTING TRIANGLE CENTRED;00NEPTUNE FORM TWO;00TOP HALF BLACK CIRCLE
00BOTTOM HALF BLACK CIRCLE;00LIGHT FOUR POINTED BLACK CUSP;00ROTATED LIGHT FOUR POINTED BLACK CUSP
00WHITE FOUR POINTED CUSP;00ROTATED WHITE FOUR POINTED CUSP;00SQUARE POSITION INDICATOR
00UNCERTAINTY SIGN;00GROUP MARK;00PLUTO FORM TWO;12HREE;11FOUR;12IVE;00TRANSPLUTO;00PROSERPINA
00ASTRAEA;00HYGIEA;00PHOLUS;00NESSUS;00WHITE MOON SELENA;00BLACK DIAMOND ON CROSS
00TRUE LIGHT MOON ARTA;00CUPIDO;00HADES;00ZEUS;00KRONOS;00APOLLON;01DMETOS;00VULCANUS;00POSEIDON
00LEFT HALF BLACK STAR;00RIGHT HALF BLACK STAR;00STAR WITH LEFT HALF BLACK;10RIGHT HALF BLACK
00LEFTWARDS TWO-HEADED ARROW WITH TRIANGLE ARROWHEADS
00UPWARDS TWO-HEADED ARROW WITH TRIANGLE ARROWHEADS
00RIGHTWARDS TWO-HEADED ARROW WITH TRIANGLE ARROWHEADS
00DOWNWARDS TWO-HEADED ARROW WITH TRIANGLE ARROWHEADS;00ERIS FORM ONE;10TWO;00SEDNA
00RUSSIAN ASTROLOGICAL SYMBOL VIGINTILE;28NOVILE;28QUINTILE;28BINOVILE;28SENTAGON;28TREDECILE
00EQUALS SIGN WITH INFINITY BELOW;00UNITED SYMBOL;00SEPARATED SYMBOL;00DOUBLED SYMBOL
00PASSED SYMBOL;00REVERSED RIGHT ANGLE;00HELLSCHREIBER PAUSE SYMBOL
00GLAGOLITIC CAPITAL LETTER AZU;26BUKY;26VEDE;26GLAGOLI;26DOBRO;26YESTU;26ZHIVETE;26DZELO;26ZEMLJA
26IZHE;27NITIAL IZHE;27;26DJERVI;26KAKO;26LJUDIJE;26MYSLITE;26NASHI;26ONU;26POKOJI;26RITSI;26SLOVO
26TVRIDO;26UKU;26FRITU;26HERU;26OTU;26PE;26SHTA;26TSI;26CHRIVI;26SHA;26YERU;29I;27ATI;26SPIDERY HA
26YU;26SMALL YUS;35 WITH TAIL;26YO;26IOTATED SMALL YUS;26BIG YUS;26IOTATED BIG YUS;26FITA
26IZHITSA;26SHTAPIC;26TROKUTASTI A;26LATINATE MYSLITE;26CAUDATE CHRIVI;11SMALL LETTER AZU;24BUKY
24VEDE;24GLAGOLI;24DOBRO;24YESTU;24ZHIVETE;24DZELO;24ZEMLJA;24IZHE;25NITIAL IZHE;25;24DJERVI
24KAKO;24LJUDIJE;24MYSLITE;24NASHI;24ONU;24POKOJI;24RITSI;24SLOVO;24TVRIDO;24UKU;24FRITU;24HERU
24OTU;24PE;24SHTA;24TSI;24CHRIVI;24SHA;24YERU;27I;25ATI;24SPIDERY HA;24YU;24SMALL YUS;33 WITH TAIL
24YO;24IOTATED SMALL YUS;24BIG YUS;24IOTATED BIG YUS;24FITA;24IZHITSA;24SHTAPIC;24TROKUTASTI A
24LATINATE MYSLITE;24CAUDATE CHRIVI;00LATIN CAPITAL LETTER L WITH DOUBLE BAR
06SMALL LETTER L WITH DOUBLE BAR;06CAPITAL LETTER L WITH MIDDLE TILDE;21P WITH STROKE
21R WITH TAIL;06SMALL LETTER A WITH STROKE;19T WITH DIAGONAL STROKE
06CAPITAL LETTER H WITH DESCENDER;06SMALL LETTER H WITH DESCENDER
06CAPITAL LETTER K WITH DESCENDER;06SMALL LETTER K WITH DESCENDER
06CAPITAL LETTER Z WITH DESCENDER;06SMALL LETTER Z WITH DESCENDER;06CAPITAL LETTER ALPHA
21M WITH HOOK;21TURNED A;29LPHA;06SMALL LETTER V WITH RIGHT HOOK;06CAPITAL LETTER W WITH HOOK
06SMALL LETTER W WITH HOOK;19V WITH CURL;06CAPITAL LETTER HALF H;06SMALL LETTER HALF H
19TAILLESS PHI;19E WITH NOTCH;19TURNED R WITH TAIL;19O WITH LOW RING INSIDE
06LETTER SMALL CAPITAL TURNED E;06SUBSCRIPT SMALL LETTER J;00MODIFIER LETTER CAPITAL V
00LATIN CAPITAL LETTER S WITH SWASH TAIL;21Z WITH SWASH TAIL;00COPTIC CAPITAL LETTER ALFA
07SMALL LETTER ALFA;07CAPITAL LETTER VIDA;07SMALL LETTER VIDA;07CAPITAL LETTER GAMMA
07SMALL LETTER GAMMA;07CAPITAL LETTER DALDA;07SMALL LETTER DALDA;07CAPITAL LETTER EIE
07SMALL LETTER EIE;07CAPITAL LETTER SOU;07SMALL LETTER SOU;07CAPITAL LETTER ZATA
07SMALL LETTER ZATA;07CAPITAL LETTER HATE;07SMALL LETTER HATE;07CAPITAL LETTER THETHE
07SMALL LETTER THETHE;07CAPITAL LETTER IAUDA;07SMALL LETTER IAUDA;07CAPITAL LETTER KAPA
07SMALL LETTER KAPA;07CAPITAL LETTER LAULA;07SMALL LETTER LAULA;07CAPITAL LETTER MI
07SMALL LETTER MI;07CAPITAL LETTER NI;07SMALL LETTER NI;07CAPITAL LETTER KSI;07SMALL LETTER KSI
07CAPITAL LETTER O;07SMALL LETTER O;07CAPITAL LETTER PI;07SMALL LETTER PI;07CAPITAL LETTER RO
07SMALL LETTER RO;07CAPITAL LETTER SIMA;07SMALL LETTER SIMA;07CAPITAL LETTER TAU
07SMALL LETTER TAU;07CAPITAL LETTER UA;07SMALL LETTER UA;07CAPITAL LETTER FI;07SMALL LETTER FI
07CAPITAL LETTER KHI;07SMALL LETTER KHI;07CAPITAL LETTER PSI;07SMALL LETTER PSI
07CAPITAL LETTER OOU;07SMALL LETTER OOU;07CAPITAL LETTER DIALECT-P ALEF
07SMALL LETTER DIALECT-P ALEF;07CAPITAL LETTER OLD COPTIC AIN;07SMALL LETTER OLD COPTIC AIN
07CAPITAL LETTER CRYPTOGRAMMIC EIE;07SMALL LETTER CRYPTOGRAMMIC EIE
07CAPITAL LETTER DIALECT-P KAPA;07SMALL LETTER DIALECT-P KAPA;07CAPITAL LETTER DIALECT-P NI
07SMALL LETTER DIALECT-P NI;07CAPITAL LETTER CRYPTOGRAMMIC NI;07SMALL LETTER CRYPTOGRAMMIC NI
07CAPITAL LETTER OLD COPTIC OOU;07SMALL LETTER OLD COPTIC OOU;07CAPITAL LETTER SAMPI
07SMALL LETTER SAMPI;07CAPITAL LETTER CROSSED SHEI;07SMALL LETTER CROSSED SHEI
07CAPITAL LETTER OLD COPTIC SHEI;07SMALL LETTER OLD COPTIC SHEI;07CAPITAL LETTER OLD COPTIC ESH
07SMALL LETTER OLD COPTIC ESH;07CAPITAL LETTER AKHMIMIC KHEI;07SMALL LETTER AKHMIMIC KHEI
07CAPITAL LETTER DIALECT-P HORI;07SMALL LETTER DIALECT-P HORI;07CAPITAL LETTER OLD COPTIC HORI
07SMALL LETTER OLD COPTIC HORI;07CAPITAL LETTER OLD COPTIC HA;07SMALL LETTER OLD COPTIC HA
07CAPITAL LETTER L-SHAPED HA;07SMALL LETTER L-SHAPED HA;07CAPITAL LETTER OLD COPTIC HEI
07SMALL LETTER OLD COPTIC HEI;07CAPITAL LETTER OLD COPTIC HAT;07SMALL LETTER OLD COPTIC HAT
07CAPITAL LETTER OLD COPTIC GANGIA;07SMALL LETTER OLD COPTIC GANGIA
07CAPITAL LETTER OLD COPTIC DJA;07SMALL LETTER OLD COPTIC DJA;07CAPITAL LETTER OLD COPTIC SHIMA
07SMALL LETTER OLD COPTIC SHIMA;07CAPITAL LETTER OLD NUBIAN SHIMA;07SMALL LETTER OLD NUBIAN SHIMA
07CAPITAL LETTER OLD NUBIAN NGI;07SMALL LETTER OLD NUBIAN NGI;07CAPITAL LETTER OLD NUBIAN NYI
07SMALL LETTER OLD NUBIAN NYI;07CAPITAL LETTER OLD NUBIAN WAU;07SMALL LETTER OLD NUBIAN WAU
08YMBOL KAI;14MI RO;14PI RO;14STAUROS;14TAU RO;14KHI RO;14SHIMA SIMA
07CAPITAL LETTER CRYPTOGRAMMIC SHEI;07SMALL LETTER CRYPTOGRAMMIC SHEI
07CAPITAL LETTER CRYPTOGRAMMIC GANGIA;07SMALL LETTER CRYPTOGRAMMIC GANGIA;07COMBINING NI ABOVE
17SPIRITUS ASPER;26LENIS;08APITAL LETTER BOHAIRIC KHEI;07SMALL LETTER BOHAIRIC KHEI;+2CF9
07OLD NUBIAN FULL STOP;18DIRECT QUESTION MARK;18INDIRECT QUESTION MARK;18VERSE DIVIDER
07FRACTION ONE HALF;08ULL STOP;07MORPHOLOGICAL DIVIDER;00GEORGIAN SMALL LETTER AN;22BAN;22GAN
22DON;22EN;22VIN;22ZEN;22TAN;22IN;22KAN;22LAS;22MAN;22NAR;22ON;22PAR;22ZHAR;22RAE;22SAN;22TAR;22UN
22PHAR;22KHAR;22GHAN;22QAR;22SHIN;22CHIN;23AN;22JIL;22CIL;23HAR;22XAN;22JHAN;22HAE;23E;23IE;22WE
22HAR;23OE;+2D27;22YN;+2D2D;22AEN;+2D30;00TIFINAGH LETTER YA;18B;19H;18G;19HH;16BERBER ACADEMY YAJ
16YAJ;18D;19H;19D;20H;17EY;17AF;18K;16TUAREG YAK;16YAKHH;18H;16BERBER ACADEMY YAH;16TUAREG YAH
16YAHH;18A;18KH;16TUAREG YAKH;16YAQ;16TUAREG YAQ;16YI;17AZH;16AHAGGAR YAZH;16TUAREG YAZH;16YAL;18M
18N;16TUAREG YAGN;25NG;16YAP;17U;17AR;19R;18GH;16TUAREG YAGH;16AYER YAGH;16YAS;19S;19H;18T;19H
18CH;18TT;18V;18W;18Y;18Z;16TAWELLEMET YAZ;16YAZZ;17E;17O;+2D6F
09MODIFIER LETTER LABIALIZATION MARK;09SEPARATOR MARK;+2D7F;09CONSONANT JOINER
00ETHIOPIC SYLLABLE LOA;18MOA;18ROA;18SOA;19HOA;18BOA;18TOA;18COA;18NOA;19YOA;18GLOTTAL OA;18ZOA
18DOA;19DOA;18JOA;18THOA;18CHOA;18PHOA;19OA;18GGWA;21I;21EE;22;+2DA0;18SSA;20U;20I;20AA;20EE;21
20O;+2DA8;18CCA;20U;20I;20AA;20EE;21;20O;+2DB0;18ZZA;20U;20I;20AA;20EE;21;20O;+2DB8;18CCHA;21U;21I
21AA;21EE;22;21O;+2DC0;18QYA;20U;20I;20AA;20EE;21;20O;+2DC8;18KYA;20U;20I;20AA;20EE;21;20O;+2DD0
18XYA;20U;20I;20AA;20EE;21;20O;+2DD8;18GYA;20U;20I;20AA;20EE;21;20O;+2DE0
00COMBINING CYRILLIC LETTER BE;26VE;26GHE;26DE;26ZHE;27E;26KA;26EL;27M;27N;26O;26PE;26ER;27S;26TE
26HA;26TSE;26CHE;26SHA;28CHA;26FITA;26ES-TE;26A;26IE;26DJERV;26MONOGRAPH UK;26YAT;27U;26IOTIFIED A
26LITTLE YUS;26BIG YUS;26IOTIFIED BIG YUS;00RIGHT ANGLE SUBSTITUTION MARKER
12DOTTED SUBSTITUTION MARKER;00LEFT SUBSTITUTION BRACKET;00RIGHT SUBSTITUTION BRACKET
00LEFT DOTTED SUBSTITUTION BRACKET;00RIGHT DOTTED SUBSTITUTION BRACKET
01AISED INTERPOLATION MARKER;07DOTTED INTERPOLATION MARKER;00DOTTED TRANSPOSITION MARKER
00LEFT TRANSPOSITION BRACKET;00RIGHT TRANSPOSITION BRACKET;01AISED SQUARE
00LEFT RAISED OMISSION BRACKET;00RIGHT RAISED OMISSION BRACKET;00EDITORIAL CORONIS;00PARAGRAPHOS
00FORKED PARAGRAPHOS;00REVERSED FORKED PARAGRAPHOS;00HYPODIASTOLE;00DOTTED OBELOS;02WNWARDS ANCORA
00UPWARDS ANCORA;00DOTTED RIGHT-POINTING ANGLE;02UBLE OBLIQUE HYPHEN;00INVERTED INTERROBANG
00PALM BRANCH;00HYPHEN WITH DIAERESIS;00TILDE WITH RING ABOVE;00LEFT LOW PARAPHRASE BRACKET
00RIGHT LOW PARAPHRASE BRACKET;00TILDE WITH DOT ABOVE;15BELOW;00LEFT VERTICAL BAR WITH QUILL
00RIGHT VERTICAL BAR WITH QUILL;00TOP LEFT HALF BRACKET;04RIGHT HALF BRACKET
00BOTTOM LEFT HALF BRACKET;07RIGHT HALF BRACKET;00LEFT SIDEWAYS U BRACKET
00RIGHT SIDEWAYS U BRACKET;00LEFT DOUBLE PARENTHESIS;00RIGHT DOUBLE PARENTHESIS
00TWO DOTS OVER ONE DOT PUNCTUATION;00ONE DOT OVER TWO DOTS PUNCTUATION
00SQUARED FOUR DOT PUNCTUATION;00FIVE DOT MARK;00REVERSED QUESTION MARK;00VERTICAL TILDE
00RING POINT;00WORD SEPARATOR MIDDLE DOT;00TURNED COMMA;00RAISED DOT;07COMMA;00TURNED SEMICOLON
00DAGGER WITH LEFT GUARD;12RIGHT GUARD;00TURNED DAGGER;01OP HALF SECTION SIGN;01WO-EM DASH
01HREE-EM DASH;00STENOGRAPHIC FULL STOP;00VERTICAL SIX DOTS;00WIGGLY VERTICAL LINE;00CAPITULUM
00DOUBLE HYPHEN;00REVERSED COMMA;00DOUBLE LOW-REVERSED-9 QUOTATION MARK;01ASH WITH LEFT UPTURN
01OUBLE SUSPENSION MARK;00INVERTED LOW KAVYKA;19 WITH KAVYKA ABOVE;00LOW KAVYKA;10 WITH DOT
00DOUBLE STACKED COMMA;02TTED SOLIDUS;00TRIPLE DAGGER;00MEDIEVAL COMMA;00PARAGRAPHUS MARK
01UNCTUS ELEVATUS MARK;00CORNISH VERSE DIVIDER;01ROSS PATTY WITH RIGHT CROSSBAR;17LEFT CROSSBAR
00TIRONIAN SIGN CAPITAL ET;00MEDIEVAL EXCLAMATION MARK;09QUESTION MARK
00LEFT SQUARE BRACKET WITH STROKE;00RIGHT SQUARE BRACKET WITH STROKE
00LEFT SQUARE BRACKET WITH DOUBLE STROKE;00RIGHT SQUARE BRACKET WITH DOUBLE STROKE
00TOP HALF LEFT PARENTHESIS;09RIGHT PARENTHESIS;00BOTTOM HALF LEFT PARENTHESIS;12RIGHT PARENTHESIS
00OBLIQUE HYPHEN;+2E80;00CJK RADICAL REPEAT;12CLIFF;12SECOND ONE;19TWO;20HREE;12PERSON;12BOX
12TABLE;12KNIFE ONE;18TWO;12DIVINATION;12SEAL;13MALL ONE;18TWO;12LAME ONE;17TWO;18HREE;17FOUR
12SNAKE;12THREAD;12SNOUT ONE;18TWO;12HEART ONE;18TWO;13AND;12RAP;+2E9B;12CHOKE;12SUN;12MOON
12DEATH;12MOTHER;12CIVILIAN;12WATER ONE;18TWO;12FIRE;12PAW ONE;16TWO;12SIMPLIFIED HALF TREE TRUNK
12COW;12DOG;12JADE;12BOLT OF CLOTH;12EYE;12SPIRIT ONE;19TWO;12BAMBOO;12SILK;12C-SIMPLIFIED SILK
12NET ONE;16TWO;17HREE;16FOUR;12MESH;12SHEEP;12RAM;12EWE;12OLD;12BRUSH ONE;18TWO;12MEAT;13ORTAR
12GRASS ONE;18TWO;19HREE;12TIGER;12CLOTHES;12WEST ONE;17TWO;12C-SIMPLIFIED SEE;12SIMPLIFIED HORN
12HORN;12C-SIMPLIFIED SPEECH;26HELL;12FOOT;12C-SIMPLIFIED CART;12SIMPLIFIED WALK;12WALK ONE;17TWO
12CITY;13-SIMPLIFIED GOLD;12LONG ONE;17TWO;12C-SIMPLIFIED LONG;25GATE;12MOUND ONE;18TWO;12RAIN
12BLUE;12C-SIMPLIFIED TANNED LEATHER;25LEAF;25WIND;25FLY;12EAT ONE;16TWO;17HREE;12C-SIMPLIFIED EAT
12HEAD;12C-SIMPLIFIED HORSE;12BONE;12GHOST;12C-SIMPLIFIED FISH;25BIRD;25SALT;12SIMPLIFIED WHEAT
23YELLOW;12C-SIMPLIFIED FROG;12J-SIMPLIFIED EVEN;12C-SIMPLIFIED EVEN;12J-SIMPLIFIED TOOTH
12C-SIMPLIFIED TOOTH;12J-SIMPLIFIED DRAGON;12C-SIMPLIFIED DRAGON;12TURTLE;12J-SIMPLIFIED TURTLE
12C-SIMPLIFIED TURTLE;+2F00;00KANGXI RADICAL ONE;15LINE;15DOT;15SLASH;16ECOND;15HOOK;15TWO;15LID
15MAN;15LEGS;15ENTER;16IGHT;15DOWN BOX;15COVER;15ICE;15TABLE;15OPEN BOX;15KNIFE;15POWER;15WRAP
15SPOON;15RIGHT OPEN BOX;15HIDING ENCLOSURE;15TEN;15DIVINATION;15SEAL;15CLIFF;15PRIVATE;15AGAIN
15MOUTH;15ENCLOSURE;16ARTH;15SCHOLAR;15GO;17 SLOWLY;15EVENING;15BIG;15WOMAN;15CHILD;15ROOF;15INCH
15SMALL;15LAME;15CORPSE;15SPROUT;15MOUNTAIN;15RIVER;15WORK;15ONESELF;15TURBAN;15DRY;15SHORT THREAD
15DOTTED CLIFF;15LONG STRIDE;15TWO HANDS;15SHOOT;15BOW;15SNOUT;15BRISTLE;15STEP;15HEART;16ALBERD
15DOOR;15HAND;15BRANCH;15RAP;15SCRIPT;15DIPPER;15AXE;15SQUARE;15NOT;15SUN;16AY;15MOON;15TREE
15LACK;15STOP;15DEATH;15WEAPON;15DO NOT;15COMPARE;15FUR;15CLAN;15STEAM;15WATER;15FIRE;15CLAW
15FATHER;15DOUBLE X;15HALF TREE TRUNK;15SLICE;15FANG;15COW;15DOG;15PROFOUND;15JADE;15MELON;15TILE
15SWEET;15LIFE;15USE;15FIELD;15BOLT OF CLOTH;15SICKNESS;15DOTTED TENT;15WHITE;15SKIN;15DISH;15EYE
15SPEAR;15ARROW;15STONE;16PIRIT;15TRACK;15GRAIN;15CAVE;15STAND;15BAMBOO;15RICE;15SILK;15JAR;15NET
15SHEEP;15FEATHER;15OLD;15AND;15PLOW;15EAR;15BRUSH;15MEAT;16INISTER;15SELF;15ARRIVE;15MORTAR
15TONGUE;15OPPOSE;15BOAT;15STOPPING;15COLOR;15GRASS;15TIGER;15INSECT;15BLOOD;15WALK ENCLOSURE
15CLOTHES;15WEST;15SEE;15HORN;15SPEECH;15VALLEY;15BEAN;15PIG;15BADGER;15SHELL;15RED;16UN;15FOOT
15BODY;15CART;15BITTER;15MORNING;15WALK;15CITY;15WINE;15DISTINGUISH;15VILLAGE;15GOLD;15LONG;15GATE
15MOUND;15SLAVE;16HORT TAILED BIRD;15RAIN;15BLUE;15WRONG;15FACE;15LEATHER;15TANNED LEATHER;15LEEK
15SOUND;15LEAF;15WIND;15FLY;15EAT;15HEAD;15FRAGRANT;15HORSE;15BONE;15TALL;15HAIR;15FIGHT
15SACRIFICIAL WINE;15CAULDRON;15GHOST;15FISH;15BIRD;15SALT;15DEER;15WHEAT;15HEMP;15YELLOW;15MILLET
15BLACK;15EMBROIDERY;15FROG;15TRIPOD;15DRUM;15RAT;15NOSE;15EVEN;15TOOTH;15DRAGON;15TURTLE;15FLUTE
+2FF0;00IDEOGRAPHIC DESCRIPTION CHARACTER LEFT TO RIGHT;34ABOVE TO BELOW
34LEFT TO MIDDLE AND RIGHT;34ABOVE TO MIDDLE AND BELOW;34FULL SURROUND;34SURROUND FROM ABOVE
48BELOW;48LEFT;48UPPER LEFT;54RIGHT;48LOWER LEFT;34OVERLAID;+3000;12SPACE;12COMMA;12FULL STOP
00DITTO MARK;00JAPANESE INDUSTRIAL STANDARD SYMBOL;00IDEOGRAPHIC ITERATION MARK;12CLOSING MARK
12NUMBER ZERO;00LEFT ANGLE BRACKET;00RIGHT ANGLE BRACKET;00LEFT DOUBLE ANGLE BRACKET
00RIGHT DOUBLE ANGLE BRACKET;00LEFT CORNER BRACKET;00RIGHT CORNER BRACKET
00LEFT WHITE CORNER BRACKET;00RIGHT WHITE CORNER BRACKET;00LEFT BLACK LENTICULAR BRACKET
00RIGHT BLACK LENTICULAR BRACKET;00POSTAL MARK;00GETA MARK;00LEFT TORTOISE SHELL BRACKET
00RIGHT TORTOISE SHELL BRACKET;00LEFT WHITE LENTICULAR BRACKET;00RIGHT WHITE LENTICULAR BRACKET
00LEFT WHITE TORTOISE SHELL BRACKET;00RIGHT WHITE TORTOISE SHELL BRACKET
00LEFT WHITE SQUARE BRACKET;00RIGHT WHITE SQUARE BRACKET;00WAVE DASH
00REVERSED DOUBLE PRIME QUOTATION MARK;00DOUBLE PRIME QUOTATION MARK
00LOW DOUBLE PRIME QUOTATION MARK;00POSTAL MARK FACE;00HANGZHOU NUMERAL ONE;17TWO;18HREE;17FOUR
18IVE;17SIX;18EVEN;17EIGHT;17NINE;00IDEOGRAPHIC LEVEL TONE MARK;12RISING TONE MARK
12DEPARTING TONE MARK;12ENTERING TONE MARK;00HANGUL SINGLE DOT TONE MARK;07DOUBLE DOT TONE MARK
00WAVY DASH;00VERTICAL KANA REPEAT MARK;21WITH VOICED SOUND MARK;21MARK UPPER HALF
21WITH VOICED SOUND MARK UPPER HALF;21MARK LOWER HALF;00CIRCLED POSTAL MARK
00IDEOGRAPHIC TELEGRAPH LINE FEED SEPARATOR SYMBOL;00HANGZHOU NUMERAL TEN;18WENTY;18HIRTY
00VERTICAL IDEOGRAPHIC ITERATION MARK;00MASU MARK;00PART ALTERNATION MARK
00IDEOGRAPHIC VARIATION INDICATOR;12HALF FILL SPACE;+3041;00HIRAGANA LETTER SMALL A;16A;16SMALL I
16I;16SMALL U;16U;16SMALL E;16E;16SMALL O;16O;16KA;16GA;16KI;16GI;16KU;16GU;16KE;16GE;16KO;16GO
16SA;16ZA;16SI;16ZI;16SU;16ZU;16SE;16ZE;16SO;16ZO;16TA;16DA;16TI;16DI;16SMALL TU;16TU;16DU;16TE
16DE;16TO;16DO;16NA;17I;17U;17E;17O;16HA;16BA;16PA;16HI;16BI;16PI;16HU;16BU;16PU;16HE;16BE;16PE
16HO;16BO;16PO;16MA;17I;17U;17E;17O;16SMALL YA;16YA;16SMALL YU;16YU;16SMALL YO;16YO;16RA;17I;17U
17E;17O;16SMALL WA;16WA;17I;17E;17O;16N;16VU;16SMALL KA;23E;+3099
00COMBINING KATAKANA-HIRAGANA VOICED SOUND MARK;28SEMI-VOICED SOUND MARK
00KATAKANA-HIRAGANA VOICED SOUND MARK;18SEMI-VOICED SOUND MARK;00HIRAGANA ITERATION MARK
09VOICED ITERATION MARK;09DIGRAPH YORI;00KATAKANA-HIRAGANA DOUBLE HYPHEN;08 LETTER SMALL A;16A
16SMALL I;16I;16SMALL U;16U;16SMALL E;16E;16SMALL O;16O;16KA;16GA;16KI;16GI;16KU;16GU;16KE;16GE
16KO;16GO;16SA;16ZA;16SI;16ZI;16SU;16ZU;16SE;16ZE;16SO;16ZO;16TA;16DA;16TI;16DI;16SMALL TU;16TU
16DU;16TE;16DE;16TO;16DO;16NA;17I;17U;17E;17O;16HA;16BA;16PA;16HI;16BI;16PI;16HU;16BU;16PU;16HE
16BE;16PE;16HO;16BO;16PO;16MA;17I;17U;17E;17O;16SMALL YA;16YA;16SMALL YU;16YU;16SMALL YO;16YO;16RA
17I;17U;17E;17O;16SMALL WA;16WA;17I;17E;17O;16N;16VU;16SMALL KA;23E;16VA;17I;17E;17O;09MIDDLE DOT
08-HIRAGANA PROLONGED SOUND MARK;08 ITERATION MARK;09VOICED ITERATION MARK;09DIGRAPH KOTO;+3105
00BOPOMOFO LETTER B;16P;16M;16F;16D;16T;16N;16L;16G;16K;16H;16J;16Q;16X;16ZH;16CH;16SH;16R;16Z;16C
16S;16A;16O;16E;17H;16AI;16EI;16AU;16OU;16AN;16EN;16ANG;16ENG;17R;16I;16U;16IU;16V;16NG;16GN;16IH
16O WITH DOT ABOVE;16NN;+3131;00HANGUL LETTER KIYEOK;14SSANGKIYEOK;14KIYEOK-SIOS;14NIEUN;19-CIEUC
20HIEUH;14TIKEUT;14SSANGTIKEUT;14RIEUL;19-KIYEOK;20MIEUM;20PIEUP;20SIOS;20THIEUTH;20PHIEUPH
20HIEUH;14MIEUM;14PIEUP;14SSANGPIEUP;14PIEUP-SIOS;14SIOS;15SANGSIOS;14IEUNG;14CIEUC;14SSANGCIEUC
14CHIEUCH;14KHIEUKH;14THIEUTH;14PHIEUPH;14HIEUH;14A;15E;14YA;16E;14EO;15;14YEO;16;14O;14WA;16E
14OE;14YO;14U;14WEO;16;15I;14YU;14EU;14YI;14I;07FILLER;07LETTER SSANGNIEUN;14NIEUN-TIKEUT;20SIOS
20PANSIOS;14RIEUL-KIYEOK-SIOS;20TIKEUT;20PIEUP-SIOS;21ANSIOS;20YEORINHIEUH;14MIEUM-PIEUP;20SIOS
20PANSIOS;14KAPYEOUNMIEUM;14PIEUP-KIYEOK;20TIKEUT;20SIOS-KIYEOK;25TIKEUT;20CIEUC;20THIEUTH
14KAPYEOUNPIEUP;22SSANGPIEUP;14SIOS-KIYEOK;19NIEUN;19TIKEUT;19PIEUP;19CIEUC;14PANSIOS;14SSANGIEUNG
14YESIEUNG;22-SIOS;23PANSIOS;14KAPYEOUNPHIEUPH;14SSANGHIEUH;14YEORINHIEUH;15O-YA;19E;17I;15U-YEO
19;17I;14ARAEA;19E;+3190;00IDEOGRAPHIC ANNOTATION LINKING MARK;23REVERSE MARK;23ONE MARK
23TWO MARK;24HREE MARK;23FOUR MARK;23TOP MARK;23MIDDLE MARK;23BOTTOM MARK;23FIRST MARK
23SECOND MARK;23THIRD MARK;23FOURTH MARK;23HEAVEN MARK;23EARTH MARK;23MAN MARK
00BOPOMOFO LETTER BU;16ZI;16JI;16GU;16EE;17NN;16OO;17NN;16IR;16ANN;16INN;16UNN;16IM;16NGG;16AINN
17UNN;17M;16OM;17NG;16INNN;09FINAL LETTER P;22T;22K;22H;09LETTER GH;16LH;16ZY;09FINAL LETTER G
09LETTER GW;16KW;16OE;16AH;00CJK STROKE T;11WG;11XG;11BXG;11SW;11HZZ;13G;12P;12ZWG;11SZWG;11HZT
13ZP;12PWG;12ZW;13ZZ;11N;11H;11S;11P;11SP;11D;11HZ;12G;11SZ;12WZ;12T;12G;11PD;12Z;11TN;11SZZ;12WG
11HXWG;12ZZZG;11PG;11Q;+31F0;00KATAKANA LETTER SMALL KU;22SI;23U;22TO;22NU;22HA;23I;23U;23E;23O
22MU;22RA;23I;23U;23E;23O;00PARENTHESIZED HANGUL KIYEOK;21NIEUN;21TIKEUT;21RIEUL;21MIEUM;21PIEUP
21SIOS;21IEUNG;21CIEUC;22HIEUCH;21KHIEUKH;21THIEUTH;21PHIEUPH;21HIEUH;21KIYEOK A;21NIEUN A
21TIKEUT A"

end EachSubject.Text.CharacterName

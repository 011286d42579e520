/-!
# Names of characters from U+1F3CC on

The names are written as `CharacterName` reads them.
-/

namespace EachSubject.Text.CharacterName

/-- The names of the characters from U+1F3CC on. -/
def blockSeven : String := "+1F3CC;00GOLFER;00RACING MOTORCYCLE;07CAR;00CRICKET BAT AND BALL;00VOLLEYBALL
00FIELD HOCKEY STICK AND BALL;00ICE HOCKEY STICK AND PUCK;00TABLE TENNIS PADDLE AND BALL
00SNOW CAPPED MOUNTAIN;00CAMPING;00BEACH WITH UMBRELLA;01UILDING CONSTRUCTION;00HOUSE BUILDINGS
00CITYSCAPE;00DERELICT HOUSE BUILDING;00CLASSICAL BUILDING;00DESERT;06 ISLAND;00NATIONAL PARK
00STADIUM;00HOUSE BUILDING;06WITH GARDEN;00OFFICE BUILDING;00JAPANESE POST OFFICE
00EUROPEAN POST OFFICE;00HOSPITAL;00BANK;00AUTOMATED TELLER MACHINE;00HOTEL;00LOVE HOTEL
00CONVENIENCE STORE;00SCHOOL;00DEPARTMENT STORE;00FACTORY;00IZAKAYA LANTERN;00JAPANESE CASTLE
00EUROPEAN CASTLE;00WHITE PENNANT;00BLACK PENNANT;00WAVING WHITE FLAG;07BLACK FLAG;00ROSETTE
00BLACK ROSETTE;00LABEL;00BADMINTON RACQUET AND SHUTTLECOCK;01OW AND ARROW;00AMPHORA
00EMOJI MODIFIER FITZPATRICK TYPE-1-2;323;324;325;326;00RAT;00MOUSE;00OX;00WATER BUFFALO;00COW
00TIGER;00LEOPARD;00RABBIT;00CAT;00DRAGON;00CROCODILE;00WHALE;00SNAIL;03KE;00HORSE;00RAM;00GOAT
00SHEEP;00MONKEY;00ROOSTER;00CHICKEN;00DOG;00PIG;00BOAR;00ELEPHANT;00OCTOPUS;00SPIRAL SHELL;00BUG
00ANT;00HONEYBEE;00LADY BEETLE;00FISH;00TROPICAL FISH;00BLOWFISH;00TURTLE;00HATCHING CHICK
00BABY CHICK;00FRONT-FACING BABY CHICK;00BIRD;00PENGUIN;00KOALA;00POODLE;00DROMEDARY CAMEL
00BACTRIAN CAMEL;00DOLPHIN;00MOUSE FACE;00COW FACE;00TIGER FACE;00RABBIT FACE;00CAT FACE
00DRAGON FACE;00SPOUTING WHALE;00HORSE FACE;00MONKEY FACE;00DOG FACE;00PIG FACE;00FROG FACE
00HAMSTER FACE;00WOLF FACE;00BEAR FACE;00PANDA FACE;01IG NOSE;01AW PRINTS;00CHIPMUNK;00EYES;03
01AR;00NOSE;00MOUTH;00TONGUE;00WHITE UP POINTING BACKHAND INDEX;06DOWN POINTING BACKHAND INDEX
06LEFT POINTING BACKHAND INDEX;06RIGHT POINTING BACKHAND INDEX;00FISTED HAND SIGN
00WAVING HAND SIGN;00OK HAND SIGN;00THUMBS UP SIGN;07DOWN SIGN;00CLAPPING HANDS SIGN
00OPEN HANDS SIGN;00CROWN;00WOMANS HAT;00EYEGLASSES;00NECKTIE;00T-SHIRT;00JEANS;00DRESS;00KIMONO
00BIKINI;00WOMANS CLOTHES;00PURSE;00HANDBAG;00POUCH;00MANS SHOE;00ATHLETIC SHOE;00HIGH-HEELED SHOE
00WOMANS SANDAL;07BOOTS;00FOOTPRINTS;00BUST IN SILHOUETTE;04S IN SILHOUETTE;01OY;00GIRL;00MAN
00WOMAN;00FAMILY;00MAN AND WOMAN HOLDING HANDS;00TWO MEN HOLDING HANDS;04WOMEN HOLDING HANDS
00POLICE OFFICER;00WOMAN WITH BUNNY EARS;00BRIDE WITH VEIL;00PERSON WITH BLOND HAIR
00MAN WITH GUA PI MAO;09TURBAN;00OLDER MAN;06WOMAN;00BABY;00CONSTRUCTION WORKER;00PRINCESS
00JAPANESE OGRE;09GOBLIN;00GHOST;00BABY ANGEL;00EXTRATERRESTRIAL ALIEN;00ALIEN MONSTER;00IMP
00SKULL;00INFORMATION DESK PERSON;00GUARDSMAN;00DANCER;00LIPSTICK;00NAIL POLISH;00FACE MASSAGE
00HAIRCUT;00BARBER POLE;00SYRINGE;00PILL;00KISS MARK;00LOVE LETTER;00RING;00GEM STONE;00KISS
00BOUQUET;00COUPLE WITH HEART;00WEDDING;00BEATING HEART;01ROKEN HEART;00TWO HEARTS
00SPARKLING HEART;00GROWING HEART;00HEART WITH ARROW;00BLUE HEART;00GREEN HEART;00YELLOW HEART
00PURPLE HEART;00HEART WITH RIBBON;00REVOLVING HEARTS;00HEART DECORATION
00DIAMOND SHAPE WITH A DOT INSIDE;00ELECTRIC LIGHT BULB;00ANGER SYMBOL;00BOMB;00SLEEPING SYMBOL
00COLLISION SYMBOL;00SPLASHING SWEAT SYMBOL;00DROPLET;01ASH SYMBOL;00PILE OF POO;00FLEXED BICEPS
00DIZZY SYMBOL;00SPEECH BALLOON;00THOUGHT BALLOON;00WHITE FLOWER;00HUNDRED POINTS SYMBOL
00MONEY BAG;00CURRENCY EXCHANGE;00HEAVY DOLLAR SIGN;00CREDIT CARD;00BANKNOTE WITH YEN SIGN
14DOLLAR SIGN;14EURO SIGN;14POUND SIGN;00MONEY WITH WINGS;00CHART WITH UPWARDS TREND AND YEN SIGN
00SEAT;00PERSONAL COMPUTER;00BRIEFCASE;00MINIDISC;00FLOPPY DISK;00OPTICAL DISC;00DVD;00FILE FOLDER
00OPEN FILE FOLDER;00PAGE WITH CURL;05FACING UP;00CALENDAR;00TEAR-OFF CALENDAR;00CARD INDEX
01HART WITH UPWARDS TREND;11DOWNWARDS TREND;00BAR CHART;00CLIPBOARD;00PUSHPIN;00ROUND PUSHPIN
00PAPERCLIP;00STRAIGHT RULER;00TRIANGULAR RULER;00BOOKMARK TABS;00LEDGER;00NOTEBOOK
08 WITH DECORATIVE COVER;00CLOSED BOOK;00OPEN BOOK;00GREEN BOOK;00BLUE BOOK;00ORANGE BOOK;00BOOKS
00NAME BADGE;00SCROLL;00MEMO;00TELEPHONE RECEIVER;00PAGER;00FAX MACHINE;00SATELLITE ANTENNA
00PUBLIC ADDRESS LOUDSPEAKER;00CHEERING MEGAPHONE;00OUTBOX TRAY;00INBOX TRAY;00PACKAGE
00E-MAIL SYMBOL;00INCOMING ENVELOPE;00ENVELOPE WITH DOWNWARDS ARROW ABOVE
00CLOSED MAILBOX WITH LOWERED FLAG;20RAISED FLAG;00OPEN MAILBOX WITH RAISED FLAG;18LOWERED FLAG
00POSTBOX;04AL HORN;00NEWSPAPER;00MOBILE PHONE;12 WITH RIGHTWARDS ARROW AT LEFT;00VIBRATION MODE
00MOBILE PHONE OFF;00NO MOBILE PHONES;00ANTENNA WITH BARS;00CAMERA;06 WITH FLASH;00VIDEO CAMERA
00TELEVISION;00RADIO;00VIDEOCASSETTE;00FILM PROJECTOR;00PORTABLE STEREO;01RAYER BEADS
00TWISTED RIGHTWARDS ARROWS;00CLOCKWISE RIGHTWARDS AND LEFTWARDS OPEN CIRCLE ARROWS
53 WITH CIRCLED ONE OVERLAY;10DOWNWARDS AND UPWARDS OPEN CIRCLE ARROWS
00ANTICLOCKWISE DOWNWARDS AND UPWARDS OPEN CIRCLE ARROWS;00LOW BRIGHTNESS SYMBOL
00HIGH BRIGHTNESS SYMBOL;00SPEAKER WITH CANCELLATION STROKE;07;07 WITH ONE SOUND WAVE
13THREE SOUND WAVES;00BATTERY;00ELECTRIC PLUG;00LEFT-POINTING MAGNIFYING GLASS
00RIGHT-POINTING MAGNIFYING GLASS;00LOCK WITH INK PEN;00CLOSED LOCK WITH KEY;00KEY;00LOCK
00OPEN LOCK;00BELL;04 WITH CANCELLATION STROKE;01OOKMARK;00LINK SYMBOL;00RADIO BUTTON
00BACK WITH LEFTWARDS ARROW ABOVE;00END WITH LEFTWARDS ARROW ABOVE
00ON WITH EXCLAMATION MARK WITH LEFT RIGHT ARROW ABOVE;00SOON WITH RIGHTWARDS ARROW ABOVE
00TOP WITH UPWARDS ARROW ABOVE;00NO ONE UNDER EIGHTEEN SYMBOL;00KEYCAP TEN
00INPUT SYMBOL FOR LATIN CAPITAL LETTERS;23SMALL LETTERS;17NUMBERS;17SYMBOLS;17LATIN LETTERS
00FIRE;00ELECTRIC TORCH;00WRENCH;00HAMMER;00NUT AND BOLT;00HOCHO;00PISTOL;00MICROSCOPE;00TELESCOPE
00CRYSTAL BALL;00SIX POINTED STAR WITH MIDDLE DOT;00JAPANESE SYMBOL FOR BEGINNER;00TRIDENT EMBLEM
00BLACK SQUARE BUTTON;00WHITE SQUARE BUTTON;00LARGE RED CIRCLE;06BLUE CIRCLE;06ORANGE DIAMOND
06BLUE DIAMOND;00SMALL ORANGE DIAMOND;06BLUE DIAMOND;00UP-POINTING RED TRIANGLE
00DOWN-POINTING RED TRIANGLE;00UP-POINTING SMALL RED TRIANGLE;00DOWN-POINTING SMALL RED TRIANGLE
00LOWER RIGHT SHADOWED WHITE CIRCLE;00UPPER RIGHT SHADOWED WHITE CIRCLE;00CIRCLED CROSS POMMEE
01ROSS POMMEE WITH HALF-CIRCLE BELOW;12;00NOTCHED LEFT SEMICIRCLE WITH THREE DOTS
08RIGHT SEMICIRCLE WITH THREE DOTS;00SYMBOL FOR MARKS CHAPTER;00WHITE LATIN CROSS
00HEAVY LATIN CROSS;00CELTIC CROSS;00OM SYMBOL;00DOVE OF PEACE;00KAABA;00MOSQUE;00SYNAGOGUE
00MENORAH WITH NINE BRANCHES;00BOWL OF HYGIEIA;00CLOCK FACE ONE OCLOCK;11TWO OCLOCK;12HREE OCLOCK
11FOUR OCLOCK;12IVE OCLOCK;11SIX OCLOCK;12EVEN OCLOCK;11EIGHT OCLOCK;11NINE OCLOCK;11TEN OCLOCK
11ELEVEN OCLOCK;11TWELVE OCLOCK;11ONE-THIRTY;11TWO-THIRTY;12HREE-THIRTY;11FOUR-THIRTY;12IVE-THIRTY
11SIX-THIRTY;12EVEN-THIRTY;11EIGHT-THIRTY;11NINE-THIRTY;11TEN-THIRTY;11ELEVEN-THIRTY
11TWELVE-THIRTY;00RIGHT SPEAKER;13 WITH ONE SOUND WAVE;19THREE SOUND WAVES;00BULLHORN
08 WITH SOUND WAVES;00RINGING BELL;00BOOK;00CANDLE;00MANTELPIECE CLOCK
00BLACK SKULL AND CROSSBONES;00NO PIRACY;00HOLE;00MAN IN BUSINESS SUIT LEVITATING;00SLEUTH OR SPY
00DARK SUNGLASSES;00SPIDER;06 WEB;00JOYSTICK;00MAN DANCING;00LEFT HAND TELEPHONE RECEIVER
00TELEPHONE RECEIVER WITH PAGE;00RIGHT HAND TELEPHONE RECEIVER;00WHITE TOUCHTONE TELEPHONE
00BLACK TOUCHTONE TELEPHONE;00TELEPHONE ON TOP OF MODEM;00CLAMSHELL MOBILE PHONE
00BACK OF ENVELOPE;00STAMPED ENVELOPE;00ENVELOPE WITH LIGHTNING;00FLYING ENVELOPE
00PEN OVER STAMPED ENVELOPE;00LINKED PAPERCLIPS;00BLACK PUSHPIN;00LOWER LEFT PENCIL
11BALLPOINT PEN;11FOUNTAIN PEN;11PAINTBRUSH;11CRAYON;01EFT WRITING HAND;00TURNED OK HAND SIGN
00RAISED HAND WITH FINGERS SPLAYED;01EVERSED RAISED HAND WITH FINGERS SPLAYED;09THUMBS UP SIGN
16DOWN SIGN;09VICTORY HAND;09HAND WITH MIDDLE FINGER EXTENDED
01AISED HAND WITH PART BETWEEN MIDDLE AND RING FINGERS;00WHITE DOWN POINTING LEFT HAND INDEX
00SIDEWAYS WHITE LEFT POINTING INDEX;15RIGHT POINTING INDEX;09BLACK LEFT POINTING INDEX
15RIGHT POINTING INDEX;00BLACK LEFT POINTING BACKHAND INDEX;06RIGHT POINTING BACKHAND INDEX
00SIDEWAYS WHITE UP POINTING INDEX;15DOWN POINTING INDEX;09BLACK UP POINTING INDEX
15DOWN POINTING INDEX;00BLACK UP POINTING BACKHAND INDEX;06DOWN POINTING BACKHAND INDEX;06HEART
00DESKTOP COMPUTER;00KEYBOARD AND MOUSE;00THREE NETWORKED COMPUTERS;00PRINTER;01OCKET CALCULATOR
00BLACK HARD SHELL FLOPPY DISK;00WHITE HARD SHELL FLOPPY DISK;00SOFT SHELL FLOPPY DISK
00TAPE CARTRIDGE;00WIRED KEYBOARD;00ONE BUTTON MOUSE;00TWO BUTTON MOUSE;01HREE BUTTON MOUSE
01RACKBALL;00OLD PERSONAL COMPUTER;00HARD DISK;00SCREEN;00PRINTER ICON;00FAX ICON
00OPTICAL DISC ICON;00DOCUMENT WITH TEXT;18 AND PICTURE;14PICTURE;00FRAME WITH PICTURE;11TILES
11AN X;00BLACK FOLDER;00FOLDER;00OPEN FOLDER;00CARD INDEX DIVIDERS;05FILE BOX;00FILE CABINET
00EMPTY NOTE;10 PAGE;13D;00NOTE;04 PAGE;07D;00EMPTY DOCUMENT;06PAGE;10S;00DOCUMENT;00PAGE;04S
00WASTEBASKET;00SPIRAL NOTE PAD;07CALENDAR PAD;00DESKTOP WINDOW;00MINIMIZE;01AXIMIZE;00OVERLAP
00CLOCKWISE RIGHT AND LEFT SEMICIRCLE ARROWS;01ANCELLATION X;00INCREASE FONT SIZE SYMBOL
00DECREASE FONT SIZE SYMBOL;00COMPRESSION;00OLD KEY;00ROLLED-UP NEWSPAPER;00PAGE WITH CIRCLED TEXT
00STOCK CHART;00DAGGER KNIFE;00LIPS;00SPEAKING HEAD IN SILHOUETTE;00THREE RAYS ABOVE;11BELOW
11LEFT;11RIGHT;00LEFT SPEECH BUBBLE;00RIGHT SPEECH BUBBLE;00TWO SPEECH BUBBLES
01HREE SPEECH BUBBLES;00LEFT THOUGHT BUBBLE;00RIGHT THOUGHT BUBBLE;00LEFT ANGER BUBBLE
00RIGHT ANGER BUBBLE;00MOOD BUBBLE;00LIGHTNING MOOD BUBBLE;14;00BALLOT BOX WITH BALLOT;07SCRIPT X
07BOX WITH SCRIPT X;09LD SCRIPT X;09X WITH BOLD SCRIPT X;00LIGHT CHECK MARK
00BALLOT BOX WITH BOLD CHECK;00WORLD MAP;00MOUNT FUJI;00TOKYO TOWER;00STATUE OF LIBERTY
01ILHOUETTE OF JAPAN;00MOYAI;00GRINNING FACE;13 WITH SMILING EYES;00FACE WITH TEARS OF JOY
00SMILING FACE WITH OPEN MOUTH;28 AND SMILING EYES;33COLD SWEAT;33TIGHTLY-CLOSED EYES;18HALO
19ORNS;00WINKING FACE;00SMILING FACE WITH SMILING EYES;00FACE SAVOURING DELICIOUS FOOD
00RELIEVED FACE;00SMILING FACE WITH HEART-SHAPED EYES;18SUNGLASSES;03RKING FACE;00NEUTRAL FACE
00EXPRESSIONLESS FACE;00UNAMUSED FACE;00FACE WITH COLD SWEAT;00PENSIVE FACE;00CONFUSED FACE
04OUNDED FACE;00KISSING FACE;00FACE THROWING A KISS;00KISSING FACE WITH SMILING EYES;18CLOSED EYES
00FACE WITH STUCK-OUT TONGUE;26 AND WINKING EYE;31TIGHTLY-CLOSED EYES;00DISAPPOINTED FACE
00WORRIED FACE;00ANGRY FACE;00POUTING FACE;00CRYING FACE;00PERSEVERING FACE
00FACE WITH LOOK OF TRIUMPH;00DISAPPOINTED BUT RELIEVED FACE;00FROWNING FACE WITH OPEN MOUTH
00ANGUISHED FACE;00FEARFUL FACE;00WEARY FACE;00SLEEPY FACE;00TIRED FACE;00GRIMACING FACE
00LOUDLY CRYING FACE;00FACE WITH OPEN MOUTH;00HUSHED FACE;00FACE WITH OPEN MOUTH AND COLD SWEAT
05SCREAMING IN FEAR;00ASTONISHED FACE;00FLUSHED FACE;00SLEEPING FACE;00DIZZY FACE
00FACE WITHOUT MOUTH;09 MEDICAL MASK;00GRINNING CAT FACE WITH SMILING EYES
00CAT FACE WITH TEARS OF JOY;00SMILING CAT FACE WITH OPEN MOUTH;22HEART-SHAPED EYES
00CAT FACE WITH WRY SMILE;00KISSING CAT FACE WITH CLOSED EYES;00POUTING CAT FACE;00CRYING CAT FACE
00WEARY CAT FACE;00SLIGHTLY FROWNING FACE;09SMILING FACE;00UPSIDE-DOWN FACE
00FACE WITH ROLLING EYES;10NO GOOD GESTURE;10OK GESTURE;00PERSON BOWING DEEPLY
00SEE-NO-EVIL MONKEY;00HEAR-NO-EVIL MONKEY;00SPEAK-NO-EVIL MONKEY;00HAPPY PERSON RAISING ONE HAND
00PERSON RAISING BOTH HANDS IN CELEBRATION;07FROWNING;07WITH POUTING FACE;12FOLDED HANDS
00NORTH WEST POINTING LEAF;00SOUTH WEST POINTING LEAF;00NORTH EAST POINTING LEAF
00SOUTH EAST POINTING LEAF;00TURNED NORTH WEST POINTING LEAF;07SOUTH WEST POINTING LEAF
07NORTH EAST POINTING LEAF;07SOUTH EAST POINTING LEAF;00NORTH WEST POINTING VINE LEAF
00SOUTH WEST POINTING VINE LEAF;00NORTH EAST POINTING VINE LEAF;00SOUTH EAST POINTING VINE LEAF
00HEAVY NORTH WEST POINTING VINE LEAF;06SOUTH WEST POINTING VINE LEAF
06NORTH EAST POINTING VINE LEAF;06SOUTH EAST POINTING VINE LEAF;00NORTH WEST POINTING BUD
00SOUTH WEST POINTING BUD;00NORTH EAST POINTING BUD;00SOUTH EAST POINTING BUD
00HEAVY NORTH WEST POINTING BUD;06SOUTH WEST POINTING BUD;06NORTH EAST POINTING BUD
06SOUTH EAST POINTING BUD;01OLLOW QUILT SQUARE ORNAMENT;28 IN BLACK SQUARE
00SOLID QUILT SQUARE ORNAMENT;27 IN BLACK SQUARE;00LEFTWARDS ROCKET;00UPWARDS ROCKET
00RIGHTWARDS ROCKET;00DOWNWARDS ROCKET;00SCRIPT LIGATURE ET ORNAMENT
00HEAVY SCRIPT LIGATURE ET ORNAMENT;00LIGATURE OPEN ET ORNAMENT;00HEAVY LIGATURE OPEN ET ORNAMENT
06AMPERSAND ORNAMENT;00SWASH AMPERSAND ORNAMENT
01ANS-SERIF HEAVY DOUBLE TURNED COMMA QUOTATION MARK ORNAMENT;24COMMA QUOTATION MARK ORNAMENT
17LOW DOUBLE COMMA QUOTATION MARK ORNAMENT;00HEAVY INTERROBANG ORNAMENT
00SANS-SERIF INTERROBANG ORNAMENT;00HEAVY SANS-SERIF INTERROBANG ORNAMENT;00VERY HEAVY SOLIDUS
11REVERSE SOLIDUS;00CHECKER BOARD;00REVERSE CHECKER BOARD;01OCKET;00HELICOPTER;00STEAM LOCOMOTIVE
00RAILWAY CAR;00HIGH-SPEED TRAIN;16 WITH BULLET NOSE;00TRAIN;00METRO;00LIGHT RAIL;00STATION;00TRAM
04 CAR;00BUS;00ONCOMING BUS;00TROLLEYBUS;00BUS STOP;00MINIBUS;00AMBULANCE;00FIRE ENGINE
00POLICE CAR;00ONCOMING POLICE CAR;00TAXI;00ONCOMING TAXI;00AUTOMOBILE;00ONCOMING AUTOMOBILE
00RECREATIONAL VEHICLE;00DELIVERY TRUCK;00ARTICULATED LORRY;00TRACTOR;00MONORAIL;02UNTAIN RAILWAY
00SUSPENSION RAILWAY;00MOUNTAIN CABLEWAY;00AERIAL TRAMWAY;00SHIP;00ROWBOAT;00SPEEDBOAT
00HORIZONTAL TRAFFIC LIGHT;00VERTICAL TRAFFIC LIGHT;00CONSTRUCTION SIGN
00POLICE CARS REVOLVING LIGHT;00TRIANGULAR FLAG ON POST;00DOOR;00NO ENTRY SIGN;00SMOKING SYMBOL
00NO SMOKING SYMBOL;00PUT LITTER IN ITS PLACE SYMBOL;00DO NOT LITTER SYMBOL;00POTABLE WATER SYMBOL
00NON-POTABLE WATER SYMBOL;00BICYCLE;00NO BICYCLES;00BICYCLIST;00MOUNTAIN BICYCLIST;00PEDESTRIAN
00NO PEDESTRIANS;00CHILDREN CROSSING;00MENS SYMBOL;00WOMENS SYMBOL;00RESTROOM;00BABY SYMBOL
00TOILET;00WATER CLOSET;00SHOWER;00BATH;04TUB;00PASSPORT CONTROL;00CUSTOMS;00BAGGAGE CLAIM
00LEFT LUGGAGE;00TRIANGLE WITH ROUNDED CORNERS;00PROHIBITED SIGN;00CIRCLED INFORMATION SOURCE
00BOYS SYMBOL;00GIRLS SYMBOL;00COUCH AND LAMP;00SLEEPING ACCOMMODATION;01HOPPING BAGS
00BELLHOP BELL;02D;00PLACE OF WORSHIP;00OCTAGONAL SIGN;00SHOPPING TROLLEY;01TUPA;00PAGODA
00HINDU TEMPLE;01UT;00ELEVATOR;+1F6DD;00PLAYGROUND SLIDE;00WHEEL;00RING BUOY;00HAMMER AND WRENCH
00SHIELD;00OIL DRUM;00MOTORWAY;00RAILWAY TRACK;00MOTOR BOAT;00UP-POINTING MILITARY AIRPLANE
12AIRPLANE;12SMALL AIRPLANE;00SMALL AIRPLANE;00NORTHEAST-POINTING AIRPLANE;00AIRPLANE DEPARTURE
09ARRIVING;+1F6F0;00SATELLITE;00ONCOMING FIRE ENGINE;00DIESEL LOCOMOTIVE;00PASSENGER SHIP
00SCOOTER;00MOTOR SCOOTER;00CANOE;00SLED;00FLYING SAUCER;00SKATEBOARD;00AUTO RICKSHAW
00PICKUP TRUCK;00ROLLER SKATE;+1F700;00ALCHEMICAL SYMBOL FOR QUINTESSENCE;22AIR;22FIRE;22EARTH
22WATER;22AQUAFORTIS;26 REGIA;32-2;27VITAE;32-2;22VINEGAR;29-2;303;22SULFUR;22PHILOSOPHERS SULFUR
22BLACK SULFUR;22MERCURY SUBLIMATE;39-2;403;22CINNABAR;22SALT;22NITRE;22VITRIOL;29-2;22ROCK SALT
31-2;22GOLD;22SILVER;22IRON ORE;30-2;22CROCUS OF IRON;22REGULUS OF IRON;22COPPER ORE
22IRON-COPPER ORE;22SUBLIMATE OF COPPER;22CROCUS OF COPPER;38-2;23OPPER ANTIMONIATE
22SALT OF COPPER ANTIMONIATE;23UBLIMATE OF SALT OF COPPER;22VERDIGRIS;22TIN ORE;22LEAD ORE
22ANTIMONY ORE;22SUBLIMATE OF ANTIMONY;23ALT OF ANTIMONY;23UBLIMATE OF SALT OF ANTIMONY
22VINEGAR OF ANTIMONY;22REGULUS OF ANTIMONY;41-2;29;29-2;303;304;22ALKALI;28-2;22MARCASITE
22SAL-AMMONIAC;22ARSENIC;22REALGAR;29-2;22AURIPIGMENT;22BISMUTH ORE;22TARTAR;28-2;22QUICK LIME
22BORAX;27-2;283;22ALUM;22OIL;22SPIRIT;22TINCTURE;22GUM;22WAX;22POWDER;22CALX;22TUTTY
22CAPUT MORTUUM;22SCEPTER OF JOVE;22CADUCEUS;22TRIDENT;22STARRED TRIDENT;22LODESTONE;22SOAP
22URINE;22HORSE DUNG;22ASHES;22POT ASHES;22BRICK;22POWDERED BRICK;22AMALGAM
22STRATUM SUPER STRATUM;43-2;23UBLIMATION;22PRECIPITATE;22DISTILL;25SOLVE;30-2;22PURIFY
24TREFACTION;22CRUCIBLE;30-2;313;314;315;22ALEMBIC;22BATH OF MARY;30VAPOURS;22RETORT;22HOUR
22NIGHT;22DAY-NIGHT;22MONTH;22HALF DRAM;27OUNCE;+1F780
00BLACK LEFT-POINTING ISOSCELES RIGHT TRIANGLE;06UP-POINTING ISOSCELES RIGHT TRIANGLE
06RIGHT-POINTING ISOSCELES RIGHT TRIANGLE;06DOWN-POINTING ISOSCELES RIGHT TRIANGLE
06SLIGHTLY SMALL CIRCLE;00MEDIUM BOLD WHITE CIRCLE;00BOLD WHITE CIRCLE;00HEAVY WHITE CIRCLE
00VERY HEAVY WHITE CIRCLE;00EXTREMELY HEAVY WHITE CIRCLE
00WHITE CIRCLE CONTAINING BLACK SMALL CIRCLE;00ROUND TARGET;00BLACK TINY SQUARE
06SLIGHTLY SMALL SQUARE;00LIGHT WHITE SQUARE;00MEDIUM WHITE SQUARE;00BOLD WHITE SQUARE
00HEAVY WHITE SQUARE;00VERY HEAVY WHITE SQUARE;00EXTREMELY HEAVY WHITE SQUARE
00WHITE SQUARE CONTAINING BLACK VERY SMALL SQUARE;30MEDIUM SQUARE;00SQUARE TARGET
00BLACK TINY DIAMOND;06VERY SMALL DIAMOND;06MEDIUM SMALL DIAMOND
00WHITE DIAMOND CONTAINING BLACK VERY SMALL DIAMOND;31MEDIUM DIAMOND;00DIAMOND TARGET
00BLACK TINY LOZENGE;06VERY SMALL LOZENGE;06MEDIUM SMALL LOZENGE
00WHITE LOZENGE CONTAINING BLACK SMALL LOZENGE;00THIN GREEK CROSS;00LIGHT GREEK CROSS
00MEDIUM GREEK CROSS;00BOLD GREEK CROSS;00VERY BOLD GREEK CROSS;05HEAVY GREEK CROSS
00EXTREMELY HEAVY GREEK CROSS;00THIN SALTIRE;00LIGHT SALTIRE;00MEDIUM SALTIRE;00BOLD SALTIRE
00HEAVY SALTIRE;00VERY HEAVY SALTIRE;00EXTREMELY HEAVY SALTIRE;00LIGHT FIVE SPOKED ASTERISK
00MEDIUM FIVE SPOKED ASTERISK;00BOLD FIVE SPOKED ASTERISK;00HEAVY FIVE SPOKED ASTERISK
00VERY HEAVY FIVE SPOKED ASTERISK;00EXTREMELY HEAVY FIVE SPOKED ASTERISK
00LIGHT SIX SPOKED ASTERISK;00MEDIUM SIX SPOKED ASTERISK;00BOLD SIX SPOKED ASTERISK
00HEAVY SIX SPOKED ASTERISK;00VERY HEAVY SIX SPOKED ASTERISK;00EXTREMELY HEAVY SIX SPOKED ASTERISK
00LIGHT EIGHT SPOKED ASTERISK;00MEDIUM EIGHT SPOKED ASTERISK;00BOLD EIGHT SPOKED ASTERISK
00HEAVY EIGHT SPOKED ASTERISK;00VERY HEAVY EIGHT SPOKED ASTERISK;00LIGHT THREE POINTED BLACK STAR
00MEDIUM THREE POINTED BLACK STAR;00THREE POINTED BLACK STAR;00MEDIUM THREE POINTED PINWHEEL STAR
00LIGHT FOUR POINTED BLACK STAR;00MEDIUM FOUR POINTED BLACK STAR;00FOUR POINTED BLACK STAR
00MEDIUM FOUR POINTED PINWHEEL STAR;00REVERSE LIGHT FOUR POINTED PINWHEEL STAR
00LIGHT FIVE POINTED BLACK STAR;00HEAVY FIVE POINTED BLACK STAR;00MEDIUM SIX POINTED BLACK STAR
00HEAVY SIX POINTED BLACK STAR;00SIX POINTED PINWHEEL STAR;00MEDIUM EIGHT POINTED BLACK STAR
00HEAVY EIGHT POINTED BLACK STAR;00VERY HEAVY EIGHT POINTED BLACK STAR
00HEAVY EIGHT POINTED PINWHEEL STAR;00LIGHT TWELVE POINTED BLACK STAR
00HEAVY TWELVE POINTED BLACK STAR;21PINWHEEL STAR;00CIRCLED TRIANGLE;00NEGATIVE CIRCLED TRIANGLE
00CIRCLED SQUARE;00NEGATIVE CIRCLED SQUARE;+1F7E0;00LARGE ORANGE CIRCLE;06YELLOW CIRCLE
06GREEN CIRCLE;06PURPLE CIRCLE;06BROWN CIRCLE;06RED SQUARE;06BLUE SQUARE;06ORANGE SQUARE
06YELLOW SQUARE;06GREEN SQUARE;06PURPLE SQUARE;06BROWN SQUARE;+1F7F0;00HEAVY EQUALS SIGN;+1F800
00LEFTWARDS ARROW WITH SMALL TRIANGLE ARROWHEAD;00UPWARDS ARROW WITH SMALL TRIANGLE ARROWHEAD
00RIGHTWARDS ARROW WITH SMALL TRIANGLE ARROWHEAD;00DOWNWARDS ARROW WITH SMALL TRIANGLE ARROWHEAD
00LEFTWARDS ARROW WITH MEDIUM TRIANGLE ARROWHEAD;00UPWARDS ARROW WITH MEDIUM TRIANGLE ARROWHEAD
00RIGHTWARDS ARROW WITH MEDIUM TRIANGLE ARROWHEAD;00DOWNWARDS ARROW WITH MEDIUM TRIANGLE ARROWHEAD
00LEFTWARDS ARROW WITH LARGE TRIANGLE ARROWHEAD;00UPWARDS ARROW WITH LARGE TRIANGLE ARROWHEAD
00RIGHTWARDS ARROW WITH LARGE TRIANGLE ARROWHEAD;00DOWNWARDS ARROW WITH LARGE TRIANGLE ARROWHEAD
+1F810;00LEFTWARDS ARROW WITH SMALL EQUILATERAL ARROWHEAD
00UPWARDS ARROW WITH SMALL EQUILATERAL ARROWHEAD
00RIGHTWARDS ARROW WITH SMALL EQUILATERAL ARROWHEAD
00DOWNWARDS ARROW WITH SMALL EQUILATERAL ARROWHEAD;00LEFTWARDS ARROW WITH EQUILATERAL ARROWHEAD
00UPWARDS ARROW WITH EQUILATERAL ARROWHEAD;00RIGHTWARDS ARROW WITH EQUILATERAL ARROWHEAD
00DOWNWARDS ARROW WITH EQUILATERAL ARROWHEAD;00HEAVY LEFTWARDS ARROW WITH EQUILATERAL ARROWHEAD
06UPWARDS ARROW WITH EQUILATERAL ARROWHEAD;06RIGHTWARDS ARROW WITH EQUILATERAL ARROWHEAD
06DOWNWARDS ARROW WITH EQUILATERAL ARROWHEAD;06LEFTWARDS ARROW WITH LARGE EQUILATERAL ARROWHEAD
06UPWARDS ARROW WITH LARGE EQUILATERAL ARROWHEAD
06RIGHTWARDS ARROW WITH LARGE EQUILATERAL ARROWHEAD
06DOWNWARDS ARROW WITH LARGE EQUILATERAL ARROWHEAD
00LEFTWARDS TRIANGLE-HEADED ARROW WITH NARROW SHAFT
00UPWARDS TRIANGLE-HEADED ARROW WITH NARROW SHAFT
00RIGHTWARDS TRIANGLE-HEADED ARROW WITH NARROW SHAFT
00DOWNWARDS TRIANGLE-HEADED ARROW WITH NARROW SHAFT
00LEFTWARDS TRIANGLE-HEADED ARROW WITH MEDIUM SHAFT
00UPWARDS TRIANGLE-HEADED ARROW WITH MEDIUM SHAFT
00RIGHTWARDS TRIANGLE-HEADED ARROW WITH MEDIUM SHAFT
00DOWNWARDS TRIANGLE-HEADED ARROW WITH MEDIUM SHAFT
00LEFTWARDS TRIANGLE-HEADED ARROW WITH BOLD SHAFT;00UPWARDS TRIANGLE-HEADED ARROW WITH BOLD SHAFT
00RIGHTWARDS TRIANGLE-HEADED ARROW WITH BOLD SHAFT
00DOWNWARDS TRIANGLE-HEADED ARROW WITH BOLD SHAFT
00LEFTWARDS TRIANGLE-HEADED ARROW WITH HEAVY SHAFT
00UPWARDS TRIANGLE-HEADED ARROW WITH HEAVY SHAFT
00RIGHTWARDS TRIANGLE-HEADED ARROW WITH HEAVY SHAFT
00DOWNWARDS TRIANGLE-HEADED ARROW WITH HEAVY SHAFT
00LEFTWARDS TRIANGLE-HEADED ARROW WITH VERY HEAVY SHAFT
00UPWARDS TRIANGLE-HEADED ARROW WITH VERY HEAVY SHAFT
00RIGHTWARDS TRIANGLE-HEADED ARROW WITH VERY HEAVY SHAFT
00DOWNWARDS TRIANGLE-HEADED ARROW WITH VERY HEAVY SHAFT;00LEFTWARDS FINGER-POST ARROW
00UPWARDS FINGER-POST ARROW;00RIGHTWARDS FINGER-POST ARROW;00DOWNWARDS FINGER-POST ARROW
00LEFTWARDS SQUARED ARROW;00UPWARDS SQUARED ARROW;00RIGHTWARDS SQUARED ARROW
00DOWNWARDS SQUARED ARROW;00LEFTWARDS COMPRESSED ARROW;00UPWARDS COMPRESSED ARROW
00RIGHTWARDS COMPRESSED ARROW;00DOWNWARDS COMPRESSED ARROW;00LEFTWARDS HEAVY COMPRESSED ARROW
00UPWARDS HEAVY COMPRESSED ARROW;00RIGHTWARDS HEAVY COMPRESSED ARROW
00DOWNWARDS HEAVY COMPRESSED ARROW;00LEFTWARDS HEAVY ARROW;00UPWARDS HEAVY ARROW
00RIGHTWARDS HEAVY ARROW;00DOWNWARDS HEAVY ARROW;+1F850;00LEFTWARDS SANS-SERIF ARROW
00UPWARDS SANS-SERIF ARROW;00RIGHTWARDS SANS-SERIF ARROW;00DOWNWARDS SANS-SERIF ARROW
00NORTH WEST SANS-SERIF ARROW;06EAST SANS-SERIF ARROW;00SOUTH EAST SANS-SERIF ARROW
06WEST SANS-SERIF ARROW;00LEFT RIGHT SANS-SERIF ARROW;00UP DOWN SANS-SERIF ARROW;+1F860
00WIDE-HEADED LEFTWARDS LIGHT BARB ARROW;12UPWARDS LIGHT BARB ARROW;12RIGHTWARDS LIGHT BARB ARROW
12DOWNWARDS LIGHT BARB ARROW;12NORTH WEST LIGHT BARB ARROW;18EAST LIGHT BARB ARROW
12SOUTH EAST LIGHT BARB ARROW;18WEST LIGHT BARB ARROW;12LEFTWARDS BARB ARROW;12UPWARDS BARB ARROW
12RIGHTWARDS BARB ARROW;12DOWNWARDS BARB ARROW;12NORTH WEST BARB ARROW;18EAST BARB ARROW
12SOUTH EAST BARB ARROW;18WEST BARB ARROW;12LEFTWARDS MEDIUM BARB ARROW
12UPWARDS MEDIUM BARB ARROW;12RIGHTWARDS MEDIUM BARB ARROW;12DOWNWARDS MEDIUM BARB ARROW
12NORTH WEST MEDIUM BARB ARROW;18EAST MEDIUM BARB ARROW;12SOUTH EAST MEDIUM BARB ARROW
18WEST MEDIUM BARB ARROW;12LEFTWARDS HEAVY BARB ARROW;12UPWARDS HEAVY BARB ARROW
12RIGHTWARDS HEAVY BARB ARROW;12DOWNWARDS HEAVY BARB ARROW;12NORTH WEST HEAVY BARB ARROW
18EAST HEAVY BARB ARROW;12SOUTH EAST HEAVY BARB ARROW;18WEST HEAVY BARB ARROW
12LEFTWARDS VERY HEAVY BARB ARROW;12UPWARDS VERY HEAVY BARB ARROW
12RIGHTWARDS VERY HEAVY BARB ARROW;12DOWNWARDS VERY HEAVY BARB ARROW
12NORTH WEST VERY HEAVY BARB ARROW;18EAST VERY HEAVY BARB ARROW;12SOUTH EAST VERY HEAVY BARB ARROW
18WEST VERY HEAVY BARB ARROW;+1F890;00LEFTWARDS TRIANGLE ARROWHEAD;00UPWARDS TRIANGLE ARROWHEAD
00RIGHTWARDS TRIANGLE ARROWHEAD;00DOWNWARDS TRIANGLE ARROWHEAD
00LEFTWARDS WHITE ARROW WITHIN TRIANGLE ARROWHEAD;00UPWARDS WHITE ARROW WITHIN TRIANGLE ARROWHEAD
00RIGHTWARDS WHITE ARROW WITHIN TRIANGLE ARROWHEAD
00DOWNWARDS WHITE ARROW WITHIN TRIANGLE ARROWHEAD;00LEFTWARDS ARROW WITH NOTCHED TAIL
00UPWARDS ARROW WITH NOTCHED TAIL;00RIGHTWARDS ARROW WITH NOTCHED TAIL
00DOWNWARDS ARROW WITH NOTCHED TAIL;00HEAVY ARROW SHAFT WIDTH ONE;24TWO THIRDS;24ONE HALF;28THIRD
00LEFTWARDS BOTTOM-SHADED WHITE ARROW;00RIGHTWARDS BOTTOM SHADED WHITE ARROW
00LEFTWARDS TOP SHADED WHITE ARROW;00RIGHTWARDS TOP SHADED WHITE ARROW
00LEFTWARDS LEFT-SHADED WHITE ARROW;00RIGHTWARDS RIGHT-SHADED WHITE ARROW
00LEFTWARDS RIGHT-SHADED WHITE ARROW;00RIGHTWARDS LEFT-SHADED WHITE ARROW
00LEFTWARDS BACK-TILTED SHADOWED WHITE ARROW;00RIGHTWARDS BACK-TILTED SHADOWED WHITE ARROW
00LEFTWARDS FRONT-TILTED SHADOWED WHITE ARROW;00RIGHTWARDS FRONT-TILTED SHADOWED WHITE ARROW
00WHITE ARROW SHAFT WIDTH ONE;24TWO THIRDS;+1F8B0;00ARROW POINTING UPWARDS THEN NORTH WEST
15RIGHTWARDS THEN CURVING SOUTH WEST;+1F900;00CIRCLED CROSS FORMEE WITH FOUR DOTS;26TWO DOTS;20
00LEFT HALF CIRCLE WITH FOUR DOTS;22THREE DOTS;23WO DOTS;22DOT;16;00DOWNWARD FACING HOOK
16NOTCHED HOOK;16HOOK WITH DOT;16NOTCHED HOOK WITH DOT;00PINCHED FINGERS;00WHITE HEART
00BROWN HEART;00PINCHING HAND;00ZIPPER-MOUTH FACE;00MONEY-MOUTH FACE;00FACE WITH THERMOMETER
00NERD FACE;00THINKING FACE;00FACE WITH HEAD-BANDAGE;00ROBOT FACE;00HUGGING FACE
00SIGN OF THE HORNS;00CALL ME HAND;00RAISED BACK OF HAND;00LEFT-FACING FIST;00RIGHT-FACING FIST
00HANDSHAKE;04 WITH INDEX AND MIDDLE FINGERS CROSSED;00I LOVE YOU HAND SIGN;00FACE WITH COWBOY HAT
00CLOWN FACE;00NAUSEATED FACE;00ROLLING ON THE FLOOR LAUGHING;00DROOLING FACE;00LYING FACE
00FACE PALM;00SNEEZING FACE;00FACE WITH ONE EYEBROW RAISED;00GRINNING FACE WITH STAR EYES
19ONE LARGE AND ONE SMALL EYE;00FACE WITH FINGER COVERING CLOSED LIPS
00SERIOUS FACE WITH SYMBOLS COVERING MOUTH;01MILING FACE WITH SMILING EYES AND HAND COVERING MOUTH
00FACE WITH OPEN MOUTH VOMITING;00SHOCKED FACE WITH EXPLODING HEAD;00PREGNANT WOMAN
00BREAST-FEEDING;00PALMS UP TOGETHER;00SELFIE;00PRINCE;00MAN IN TUXEDO;01OTHER CHRISTMAS;00SHRUG
00PERSON DOING CARTWHEEL;00JUGGLING;00FENCER;00MODERN PENTATHLON;00WRESTLERS;01ATER POLO
00HANDBALL;00DIVING MASK;00WILTED FLOWER;00DRUM WITH DRUMSTICKS;00CLINKING GLASSES;00TUMBLER GLASS
00SPOON;00GOAL NET;00RIFLE;00FIRST PLACE MEDAL;00SECOND PLACE MEDAL;00THIRD PLACE MEDAL
00BOXING GLOVE;00MARTIAL ARTS UNIFORM;00CURLING STONE;00LACROSSE STICK AND BALL;00SOFTBALL
00FLYING DISC;00CROISSANT;00AVOCADO;00CUCUMBER;00BACON;00POTATO;00CARROT;00BAGUETTE BREAD
00GREEN SALAD;00SHALLOW PAN OF FOOD;01TUFFED FLATBREAD;00EGG;00GLASS OF MILK;00PEANUTS;00KIWIFRUIT
00PANCAKES;00DUMPLING;00FORTUNE COOKIE;00TAKEOUT BOX;00CHOPSTICKS;00BOWL WITH SPOON
00CUP WITH STRAW;01OCONUT;00BROCCOLI;00PIE;01RETZEL;00CUT OF MEAT;00SANDWICH;00CANNED FOOD
00LEAFY GREEN;00MANGO;01OON CAKE;00BAGEL;00SMILING FACE WITH SMILING EYES AND THREE HEARTS
00YAWNING FACE;00SMILING FACE WITH TEAR;00FACE WITH PARTY HORN AND PARTY HAT
10UNEVEN EYES AND WAVY MOUTH;00OVERHEATED FACE;00FREEZING FACE;00NINJA;00DISGUISED FACE
00FACE HOLDING BACK TEARS;05WITH PLEADING EYES;00SARI;00LAB COAT;00GOGGLES;00HIKING BOOT
00FLAT SHOE;00CRAB;00LION FACE;00SCORPION;00TURKEY;00UNICORN FACE;00EAGLE;00DUCK;00BAT;00SHARK
00OWL;00FOX FACE;00BUTTERFLY;00DEER;00GORILLA;00LIZARD;00RHINOCEROS;00SHRIMP;01QUID;00GIRAFFE FACE
00ZEBRA FACE;00HEDGEHOG;00SAUROPOD;00T-REX;00CRICKET;00KANGAROO;00LLAMA;00PEACOCK;00HIPPOPOTAMUS
00PARROT;00RACCOON;00LOBSTER;00MOSQUITO;01ICROBE;00BADGER;00SWAN;00MAMMOTH;00DODO;00SLOTH;00OTTER
01RANGUTAN;00SKUNK;00FLAMINGO;00OYSTER;00BEAVER;01ISON;00SEAL;00GUIDE DOG;00PROBING CANE
00EMOJI COMPONENT RED HAIR;16CURLY HAIR;16BALD;16WHITE HAIR;00BONE;00LEG;00FOOT;00TOOTH
00SUPERHERO;05VILLAIN;01AFETY VEST;00EAR WITH HEARING AID;00MOTORIZED WHEELCHAIR
01ANUAL WHEELCHAIR;01ECHANICAL ARM;11LEG;00CHEESE WEDGE;01UPCAKE;00SALT SHAKER;00BEVERAGE BOX
00GARLIC;00ONION;00FALAFEL;00WAFFLE;00BUTTER;00MATE DRINK;00ICE CUBE;00BUBBLE TEA;00TROLL
00STANDING PERSON;00KNEELING PERSON;00DEAF PERSON;00FACE WITH MONOCLE;00ADULT;00CHILD
00OLDER ADULT;00BEARDED PERSON;00PERSON WITH HEADSCARF;07IN STEAMY ROOM;07CLIMBING
07IN LOTUS POSITION;00MAGE;00FAIRY;00VAMPIRE;00MERPERSON;00ELF;00GENIE;00ZOMBIE;00BRAIN
00ORANGE HEART;00BILLED CAP;00SCARF;00GLOVES;00COAT;00SOCKS;00RED GIFT ENVELOPE;00FIRECRACKER
00JIGSAW PUZZLE PIECE;00TEST TUBE;00PETRI DISH;00DNA DOUBLE HELIX;00COMPASS;00ABACUS
00FIRE EXTINGUISHER;00TOOLBOX;00BRICK;00MAGNET;00LUGGAGE;01OTION BOTTLE;00SPOOL OF THREAD
00BALL OF YARN;00SAFETY PIN;00TEDDY BEAR;00BROOM;01ASKET;00ROLL OF PAPER;00BAR OF SOAP;00SPONGE
00RECEIPT;00NAZAR AMULET;01EUTRAL CHESS KING;14QUEEN;14ROOK;14BISHOP;14KNIGHT;14PAWN
00WHITE CHESS KNIGHT ROTATED FORTY-FIVE DEGREES;00BLACK CHESS KNIGHT ROTATED FORTY-FIVE DEGREES
00NEUTRAL CHESS KNIGHT ROTATED FORTY-FIVE DEGREES;00WHITE CHESS KING ROTATED NINETY DEGREES
12QUEEN ROTATED NINETY DEGREES;12ROOK ROTATED NINETY DEGREES;12BISHOP ROTATED NINETY DEGREES
12KNIGHT ROTATED NINETY DEGREES;12PAWN ROTATED NINETY DEGREES
00BLACK CHESS KING ROTATED NINETY DEGREES;12QUEEN ROTATED NINETY DEGREES
12ROOK ROTATED NINETY DEGREES;12BISHOP ROTATED NINETY DEGREES;12KNIGHT ROTATED NINETY DEGREES
12PAWN ROTATED NINETY DEGREES;00NEUTRAL CHESS KING ROTATED NINETY DEGREES
14QUEEN ROTATED NINETY DEGREES;14ROOK ROTATED NINETY DEGREES;14BISHOP ROTATED NINETY DEGREES
14KNIGHT ROTATED NINETY DEGREES;14PAWN ROTATED NINETY DEGREES
00WHITE CHESS KNIGHT ROTATED ONE HUNDRED THIRTY-FIVE DEGREES
00BLACK CHESS KNIGHT ROTATED ONE HUNDRED THIRTY-FIVE DEGREES
00NEUTRAL CHESS KNIGHT ROTATED ONE HUNDRED THIRTY-FIVE DEGREES;00WHITE CHESS TURNED KING;19QUEEN
19ROOK;19BISHOP;19KNIGHT;19PAWN;00BLACK CHESS TURNED KING;19QUEEN;19ROOK;19BISHOP;19KNIGHT;19PAWN
00NEUTRAL CHESS TURNED KING;21QUEEN;21ROOK;21BISHOP;21KNIGHT;21PAWN
00WHITE CHESS KNIGHT ROTATED TWO HUNDRED TWENTY-FIVE DEGREES
00BLACK CHESS KNIGHT ROTATED TWO HUNDRED TWENTY-FIVE DEGREES
00NEUTRAL CHESS KNIGHT ROTATED TWO HUNDRED TWENTY-FIVE DEGREES
00WHITE CHESS KING ROTATED TWO HUNDRED SEVENTY DEGREES;12QUEEN ROTATED TWO HUNDRED SEVENTY DEGREES
12ROOK ROTATED TWO HUNDRED SEVENTY DEGREES;12BISHOP ROTATED TWO HUNDRED SEVENTY DEGREES
12KNIGHT ROTATED TWO HUNDRED SEVENTY DEGREES;12PAWN ROTATED TWO HUNDRED SEVENTY DEGREES
00BLACK CHESS KING ROTATED TWO HUNDRED SEVENTY DEGREES;12QUEEN ROTATED TWO HUNDRED SEVENTY DEGREES
12ROOK ROTATED TWO HUNDRED SEVENTY DEGREES;12BISHOP ROTATED TWO HUNDRED SEVENTY DEGREES
12KNIGHT ROTATED TWO HUNDRED SEVENTY DEGREES;12PAWN ROTATED TWO HUNDRED SEVENTY DEGREES
00NEUTRAL CHESS KING ROTATED TWO HUNDRED SEVENTY DEGREES
14QUEEN ROTATED TWO HUNDRED SEVENTY DEGREES;14ROOK ROTATED TWO HUNDRED SEVENTY DEGREES
14BISHOP ROTATED TWO HUNDRED SEVENTY DEGREES;14KNIGHT ROTATED TWO HUNDRED SEVENTY DEGREES
14PAWN ROTATED TWO HUNDRED SEVENTY DEGREES
00WHITE CHESS KNIGHT ROTATED THREE HUNDRED FIFTEEN DEGREES
00BLACK CHESS KNIGHT ROTATED THREE HUNDRED FIFTEEN DEGREES
00NEUTRAL CHESS KNIGHT ROTATED THREE HUNDRED FIFTEEN DEGREES;00WHITE CHESS EQUIHOPPER
00BLACK CHESS EQUIHOPPER;00NEUTRAL CHESS EQUIHOPPER
00WHITE CHESS EQUIHOPPER ROTATED NINETY DEGREES;00BLACK CHESS EQUIHOPPER ROTATED NINETY DEGREES
00NEUTRAL CHESS EQUIHOPPER ROTATED NINETY DEGREES;00WHITE CHESS KNIGHT-QUEEN;19ROOK;19BISHOP
00BLACK CHESS KNIGHT-QUEEN;19ROOK;19BISHOP;+1FA60;00XIANGQI RED GENERAL;12MANDARIN;12ELEPHANT
12HORSE;12CHARIOT;13ANNON;12SOLDIER;08BLACK GENERAL;14MANDARIN;14ELEPHANT;14HORSE;14CHARIOT
15ANNON;14SOLDIER;+1FA70;00BALLET SHOES;00ONE-PIECE SWIMSUIT;00BRIEFS;00SHORTS;00THONG SANDAL
+1FA78;00DROP OF BLOOD;00ADHESIVE BANDAGE;00STETHOSCOPE;00X-RAY;00CRUTCH;+1FA80;00YO-YO;00KITE
00PARACHUTE;00BOOMERANG;00MAGIC WAND;00PINATA;00NESTING DOLLS;+1FA90;00RINGED PLANET;00CHAIR
00RAZOR;00AXE;00DIYA LAMP;00BANJO;00MILITARY HELMET;00ACCORDION;00LONG DRUM;00COIN;01ARPENTRY SAW
00SCREWDRIVER;00LADDER;00HOOK;00MIRROR;00WINDOW;00PLUNGER;00SEWING NEEDLE;00KNOT;00BUCKET
00MOUSE TRAP;00TOOTHBRUSH;00HEADSTONE;00PLACARD;00ROCK;00MIRROR BALL;00IDENTIFICATION CARD
00LOW BATTERY;00HAMSA;+1FAB0;00FLY;00WORM;00BEETLE;00COCKROACH;00POTTED PLANT;00WOOD;00FEATHER
00LOTUS;00CORAL;00EMPTY NEST;00NEST WITH EGGS;+1FAC0;00ANATOMICAL HEART;00LUNGS;00PEOPLE HUGGING
01REGNANT MAN;09PERSON;01ERSON WITH CROWN;+1FAD0;00BLUEBERRIES;01ELL PEPPER;00OLIVE;00FLATBREAD
00TAMALE;00FONDUE;00TEAPOT;00POURING LIQUID;00BEANS;00JAR;+1FAE0;00MELTING FACE;00SALUTING FACE
00FACE WITH OPEN EYES AND HAND OVER MOUTH;10PEEKING EYE;10DIAGONAL MOUTH;00DOTTED LINE FACE
00BITING LIP;01UBBLES;+1FAF0;00HAND WITH INDEX FINGER AND THUMB CROSSED;00RIGHTWARDS HAND
00LEFTWARDS HAND;00PALM DOWN HAND;05UP HAND;00INDEX POINTING AT THE VIEWER;00HEART HANDS;+1FB00
00BLOCK SEXTANT-1;142;1412;143;1413;1423;14123;144;1414;1424;14124;1434;14134;14234;141234;145
1415;1425;14125;1435;14235;141235;1445;14145;14245;141245;14345;141345;142345;1412345;146;1416
1426;14126;1436;14136;14236;141236;1446;14146;15246;14346;141346;142346;1412346;1456;14156;14256
141256;14356;141356;142356;1412356;14456;141456;142456;1412456;143456;1413456;1423456
00LOWER LEFT BLOCK DIAGONAL LOWER MIDDLE LEFT TO LOWER CENTRE;53RIGHT
26UPPER MIDDLE LEFT TO LOWER CENTRE;53RIGHT;32LEFT TO LOWER CENTRE
06RIGHT BLOCK DIAGONAL UPPER MIDDLE LEFT TO UPPER CENTRE;54RIGHT
27LOWER MIDDLE LEFT TO UPPER CENTRE;54RIGHT;33LEFT TO UPPER CENTRE
33MIDDLE LEFT TO UPPER MIDDLE RIGHT;33CENTRE TO LOWER MIDDLE RIGHT;33LEFT TO LOWER MIDDLE RIGHT
33CENTRE TO UPPER MIDDLE RIGHT;33LEFT TO UPPER MIDDLE RIGHT;33CENTRE TO UPPER RIGHT
06LEFT BLOCK DIAGONAL UPPER CENTRE TO UPPER MIDDLE RIGHT;32LEFT TO UPPER MIDDLE RIGHT
32CENTRE TO LOWER MIDDLE RIGHT;32LEFT TO LOWER MIDDLE RIGHT;32CENTRE TO LOWER RIGHT
32MIDDLE LEFT TO LOWER MIDDLE RIGHT;00UPPER RIGHT BLOCK DIAGONAL LOWER MIDDLE LEFT TO LOWER CENTRE
54RIGHT;27UPPER MIDDLE LEFT TO LOWER CENTRE;54RIGHT;33LEFT TO LOWER CENTRE
06LEFT BLOCK DIAGONAL UPPER MIDDLE LEFT TO UPPER CENTRE;53RIGHT
26LOWER MIDDLE LEFT TO UPPER CENTRE;53RIGHT;32LEFT TO UPPER CENTRE
32MIDDLE LEFT TO UPPER MIDDLE RIGHT;32CENTRE TO LOWER MIDDLE RIGHT;32LEFT TO LOWER MIDDLE RIGHT
32CENTRE TO UPPER MIDDLE RIGHT;32LEFT TO UPPER MIDDLE RIGHT;32CENTRE TO UPPER RIGHT
06RIGHT BLOCK DIAGONAL UPPER CENTRE TO UPPER MIDDLE RIGHT;33LEFT TO UPPER MIDDLE RIGHT
33CENTRE TO LOWER MIDDLE RIGHT;33LEFT TO LOWER MIDDLE RIGHT;33CENTRE TO LOWER RIGHT
33MIDDLE LEFT TO LOWER MIDDLE RIGHT;06AND RIGHT AND LOWER TRIANGULAR THREE QUARTERS BLOCK
00LEFT AND LOWER AND RIGHT TRIANGULAR THREE QUARTERS BLOCK
00UPPER AND LEFT AND LOWER TRIANGULAR THREE QUARTERS BLOCK
00LEFT AND UPPER AND RIGHT TRIANGULAR THREE QUARTERS BLOCK;05TRIANGULAR ONE QUARTER BLOCK
00UPPER TRIANGULAR ONE QUARTER BLOCK;00RIGHT TRIANGULAR ONE QUARTER BLOCK
00LOWER TRIANGULAR ONE QUARTER BLOCK;00VERTICAL ONE EIGHTH BLOCK-2;263;264;265;266;267
00HORIZONTAL ONE EIGHTH BLOCK-2;283;284;285;286;287;00LEFT AND LOWER ONE EIGHTH BLOCK
09UPPER ONE EIGHTH BLOCK;00RIGHT AND UPPER ONE EIGHTH BLOCK;10LOWER ONE EIGHTH BLOCK
00UPPER AND LOWER ONE EIGHTH BLOCK;00HORIZONTAL ONE EIGHTH BLOCK-1358;00UPPER ONE QUARTER BLOCK
06THREE EIGHTHS BLOCK;06FIVE EIGHTHS BLOCK;06THREE QUARTERS BLOCK;06SEVEN EIGHTHS BLOCK
00RIGHT ONE QUARTER BLOCK;06THREE EIGHTHS BLOCK;06FIVE EIGHTHS BLOCK;06THREE QUARTERS BLOCK
06SEVEN EIGHTHS BLOCK;00LEFT HALF MEDIUM SHADE;00RIGHT HALF MEDIUM SHADE;00UPPER HALF MEDIUM SHADE
00LOWER HALF MEDIUM SHADE;00INVERSE MEDIUM SHADE
00UPPER HALF BLOCK AND LOWER HALF INVERSE MEDIUM SHADE;11INVERSE MEDIUM SHADE AND LOWER HALF BLOCK
+1FB94;00LEFT HALF INVERSE MEDIUM SHADE AND RIGHT HALF BLOCK;00CHECKER BOARD FILL
00INVERSE CHECKER BOARD FILL;00HEAVY HORIZONTAL FILL;00UPPER LEFT TO LOWER RIGHT FILL
06RIGHT TO LOWER LEFT FILL;06AND LOWER TRIANGULAR HALF BLOCK
00LEFT AND RIGHT TRIANGULAR HALF BLOCK;00UPPER LEFT TRIANGULAR MEDIUM SHADE
06RIGHT TRIANGULAR MEDIUM SHADE;00LOWER RIGHT TRIANGULAR MEDIUM SHADE
06LEFT TRIANGULAR MEDIUM SHADE;00BOX DRAWINGS LIGHT DIAGONAL UPPER CENTRE TO MIDDLE LEFT;51RIGHT
28MIDDLE LEFT TO LOWER CENTRE;35RIGHT TO LOWER CENTRE
28UPPER CENTRE TO MIDDLE LEFT TO LOWER CENTRE;51RIGHT TO LOWER CENTRE
28MIDDLE LEFT TO LOWER CENTRE TO MIDDLE RIGHT;43UPPER CENTRE TO MIDDLE RIGHT
28UPPER CENTRE TO MIDDLE LEFT AND MIDDLE RIGHT TO LOWER CENTRE
51RIGHT AND MIDDLE LEFT TO LOWER CENTRE;57TO LOWER CENTRE TO MIDDLE LEFT
51LEFT TO LOWER CENTRE TO MIDDLE RIGHT
28MIDDLE LEFT TO UPPER CENTRE TO MIDDLE RIGHT TO LOWER CENTRE
35RIGHT TO UPPER CENTRE TO MIDDLE LEFT TO LOWER CENTRE;28DIAMOND;19HORIZONTAL WITH VERTICAL STROKE
00ARROWHEAD-SHAPED POINTER;00INVERSE CHECK MARK;00LEFT HALF RUNNING MAN;00RIGHT HALF RUNNING MAN
00INVERSE DOWNWARDS ARROW WITH TIP LEFTWARDS
00LEFTWARDS ARROW AND UPPER AND LOWER ONE EIGHTH BLOCK
00RIGHTWARDS ARROW AND UPPER AND LOWER ONE EIGHTH BLOCK
00DOWNWARDS ARROW AND RIGHT ONE EIGHTH BLOCK;00UPWARDS ARROW AND RIGHT ONE EIGHTH BLOCK
00LEFT HALF FOLDER;00RIGHT HALF FOLDER;00VOIDED GREEK CROSS;00RIGHT OPEN SQUARED DOT
00NEGATIVE DIAGONAL CROSS;18MIDDLE RIGHT TO LOWER CENTRE;18DIAMOND
00WHITE HEAVY SALTIRE WITH ROUNDED CORNERS;00LEFT THIRD WHITE RIGHT POINTING INDEX
00MIDDLE THIRD WHITE RIGHT POINTING INDEX;00RIGHT THIRD WHITE RIGHT POINTING INDEX
00NEGATIVE SQUARED QUESTION MARK;00STICK FIGURE;12 WITH ARMS RAISED;13LEANING LEFT;21RIGHT
13WITH DRESS;00WHITE UP-POINTING CHEVRON;+1FBF0;00SEGMENTED DIGIT ZERO;16ONE;16TWO;17HREE;16FOUR
17IVE;16SIX;17EVEN;16EIGHT;16NINE;+2F800;00CJK COMPATIBILITY IDEOGRAPH-2F800;321;322;323;324;325
326;327;328;329;32A;32B;32C;32D;32E;32F;3110;321;322;323;324;325;326;327;328;329;32A;32B;32C;32D
32E;32F;3120;321;322;323;324;325;326;327;328;329;32A;32B;32C;32D;32E;32F;3130;321;322;323;324;325
326;327;328;329;32A;32B;32C;32D;32E;32F;3140;321;322;323;324;325;326;327;328;329;32A;32B;32C;32D
32E;32F;3150;321;322;323;324;325;326;327;328;329;32A;32B;32C;32D;32E;32F;3160;321;322;323;324;325
326;327;328;329;32A;32B;32C;32D;32E;32F;3170;321;322;323;324;325;326;327;328;329;32A;32B;32C;32D
32E;32F;3180;321;322;323;324;325;326;327;328;329;32A;32B;32C;32D;32E;32F;3190;321;322;323;324;325
326;327;328;329;32A;32B;32C;32D;32E;32F;31A0;321;322;323;324;325;326;327;328;329;32A;32B;32C;32D
32E;32F;31B0;321;322;323;324;325;326;327;328;329;32A;32B;32C;32D;32E;32F;31C0;321;322;323;324;325
326;327;328;329;32A;32B;32C;32D;32E;32F;31D0;321;322;323;324;325;326;327;328;329;32A;32B;32C;32D
32E;32F;31E0;321;322;323;324;325;326;327;328;329;32A;32B;32C;32D;32E;32F;31F0;321;322;323;324;325
326;327;328;329;32A;32B;32C;32D;32E;32F;30900;321;322;323;324;325;326;327;328;329;32A;32B;32C;32D
32E;32F;3110;321;322;323;324;325;326;327;328;329;32A;32B;32C;32D;32E;32F;3120;321;322;323;324;325
326;327;328;329;32A;32B;32C;32D;32E;32F;3130;321;322;323;324;325;326;327;328;329;32A;32B;32C;32D
32E;32F;3140;321;322;323;324;325;326;327;328;329;32A;32B;32C;32D;32E;32F;3150;321;322;323;324;325
326;327;328;329;32A;32B;32C;32D;32E;32F;3160;321;322;323;324;325;326;327;328;329;32A;32B;32C;32D
32E;32F;3170;321;322;323;324;325;326;327;328;329;32A;32B;32C;32D;32E;32F;3180;321;322;323;324;325
326;327;328;329;32A;32B;32C;32D;32E;32F;3190;321;322;323;324;325;326;327;328;329;32A;32B;32C;32D
32E;32F;31A0;321;322;323;324;325;326;327;328;329;32A;32B;32C;32D;32E;32F;31B0;321;322;323;324;325
326;327;328;329;32A;32B;32C;32D;32E;32F;31C0;321;322;323;324;325;326;327;328;329;32A;32B;32C;32D
32E;32F;31D0;321;322;323;324;325;326;327;328;329;32A;32B;32C;32D;32E;32F;31E0;321;322;323;324;325
326;327;328;329;32A;32B;32C;32D;32E;32F;31F0;321;322;323;324;325;326;327;328;329;32A;32B;32C;32D
32E;32F;30A00;321;322;323;324;325;326;327;328;329;32A;32B;32C;32D;32E;32F;3110;321;322;323;324;325
326;327;328;329;32A;32B;32C;32D;+E0001;00LANGUAGE TAG;+E0020;00TAG SPACE;04EXCLAMATION MARK
04QUOTATION MARK;04NUMBER SIGN;04DOLLAR SIGN;04PERCENT SIGN;04AMPERSAND;05POSTROPHE
04LEFT PARENTHESIS;04RIGHT PARENTHESIS;04ASTERISK;04PLUS SIGN;04COMMA;04HYPHEN-MINUS;04FULL STOP
04SOLIDUS;04DIGIT ZERO;10ONE;10TWO;11HREE;10FOUR;11IVE;10SIX;11EVEN;10EIGHT;10NINE;04COLON
04SEMICOLON;04LESS-THAN SIGN;04EQUALS SIGN;04GREATER-THAN SIGN;04QUESTION MARK;04COMMERCIAL AT
04LATIN CAPITAL LETTER A;25B;25C;25D;25E;25F;25G;25H;25I;25J;25K;25L;25M;25N;25O;25P;25Q;25R;25S
25T;25U;25V;25W;25X;25Y;25Z;05EFT SQUARE BRACKET;04REVERSE SOLIDUS;05IGHT SQUARE BRACKET
04CIRCUMFLEX ACCENT;04LOW LINE;04GRAVE ACCENT;04LATIN SMALL LETTER A;23B;23C;23D;23E;23F;23G;23H
23I;23J;23K;23L;23M;23N;23O;23P;23Q;23R;23S;23T;23U;23V;23W;23X;23Y;23Z;05EFT CURLY BRACKET
04VERTICAL LINE;04RIGHT CURLY BRACKET;04TILDE;00CANCEL TAG;+E0100;00VARIATION SELECTOR-17;208;209
1920;201;202;203;204;205;206;207;208;209;1930;201;202;203;204;205;206;207;208;209;1940;201;202;203
204;205;206;207;208;209;1950;201;202;203;204;205;206;207;208;209;1960;201;202;203;204;205;206;207
208;209;1970;201;202;203;204;205;206;207;208;209;1980;201;202;203;204;205;206;207;208;209;1990;201
202;203;204;205;206;207;208;209;19100;211;212;213;214;215;216;217;218;219;2010;211;212;213;214;215
216;217;218;219;2020;211;212;213;214;215;216;217;218;219;2030;211;212;213;214;215;216;217;218;219
2040;211;212;213;214;215;216;217;218;219;2050;211;212;213;214;215;216;217;218;219;2060;211;212;213
214;215;216;217;218;219;2070;211;212;213;214;215;216;217;218;219;2080;211;212;213;214;215;216;217
218;219;2090;211;212;213;214;215;216;217;218;219;19200;211;212;213;214;215;216;217;218;219;2010
211;212;213;214;215;216;217;218;219;2020;211;212;213;214;215;216;217;218;219;2030;211;212;213;214
215;216;217;218;219;2040;211;212;213;214;215;216;217;218;219;2050;211;212;213;214;215;216"

end EachSubject.Text.CharacterName

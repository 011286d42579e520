/-!
# Names of characters from U+3211 on

The names are written as `CharacterName` reads them.
-/

namespace EachSubject.Text.CharacterName

/-- The names of the characters from U+3211 on. -/
def blockFour : String := "+3211;00PARENTHESIZED HANGUL RIEUL A;21MIEUM A;21PIEUP A;21SIOS A;21IEUNG A;21CIEUC A;22HIEUCH A
21KHIEUKH A;21THIEUTH A;21PHIEUPH A;21HIEUH A;21CIEUC U;14KOREAN CHARACTER OJEON;32 HU;+3220
14IDEOGRAPH ONE;24TWO;25HREE;24FOUR;25IVE;24SIX;25EVEN;24EIGHT;24NINE;24TEN;24MOON;24FIRE;24WATER
25OOD;24METAL;24EARTH;24SUN;25TOCK;24HAVE;24SOCIETY;24NAME;24SPECIAL;24FINANCIAL;24CONGRATULATION
24LABOR;24REPRESENT;24CALL;24STUDY;25UPERVISE;24ENTERPRISE;24RESOURCE;24ALLIANCE;24FESTIVAL;24REST
24SELF;24REACH;00CIRCLED IDEOGRAPH QUESTION;18KINDERGARTEN;18SCHOOL;18KOTO
08NUMBER TEN ON BLACK SQUARE;16WENTY ON BLACK SQUARE;16HIRTY ON BLACK SQUARE
15FORTY ON BLACK SQUARE;16IFTY ON BLACK SQUARE;15SIXTY ON BLACK SQUARE;16EVENTY ON BLACK SQUARE
15EIGHTY ON BLACK SQUARE;00PARTNERSHIP SIGN;00CIRCLED NUMBER TWENTY ONE;22TWO;23HREE;22FOUR;23IVE
22SIX;23EVEN;22EIGHT;22NINE;16HIRTY;21 ONE;22TWO;23HREE;22FOUR;23IVE;08HANGUL KIYEOK;15NIEUN
15TIKEUT;15RIEUL;15MIEUM;15PIEUP;15SIOS;15IEUNG;15CIEUC;16HIEUCH;15KHIEUKH;15THIEUTH;15PHIEUPH
15HIEUH;15KIYEOK A;15NIEUN A;15TIKEUT A;15RIEUL A;15MIEUM A;15PIEUP A;15SIOS A;15IEUNG A;15CIEUC A
16HIEUCH A;15KHIEUKH A;15THIEUTH A;15PHIEUPH A;15HIEUH A;08KOREAN CHARACTER CHAMKO;25JUEUI
08HANGUL IEUNG U;00KOREAN STANDARD SYMBOL;00CIRCLED IDEOGRAPH ONE;18TWO;19HREE;18FOUR;19IVE;18SIX
19EVEN;18EIGHT;18NINE;18TEN;18MOON;18FIRE;18WATER;19OOD;18METAL;18EARTH;18SUN;19TOCK;18HAVE
18SOCIETY;18NAME;18SPECIAL;18FINANCIAL;18CONGRATULATION;18LABOR;18SECRET;18MALE;18FEMALE
18SUITABLE;18EXCELLENT;18PRINT;18ATTENTION;18ITEM;18REST;18COPY;20RRECT;18HIGH;18CENTRE;18LOW
19EFT;18RIGHT;18MEDICINE;18RELIGION;18STUDY;19UPERVISE;18ENTERPRISE;18RESOURCE;18ALLIANCE;18NIGHT
08NUMBER THIRTY SIX;23EVEN;22EIGHT;22NINE;15FORTY;20 ONE;21TWO;22HREE;21FOUR;22IVE;21SIX;22EVEN
21EIGHT;21NINE;16IFTY;00IDEOGRAPHIC TELEGRAPH SYMBOL FOR JANUARY;33FEBRUARY;33MARCH;33APRIL;33MAY
33JUNE;35LY;33AUGUST;33SEPTEMBER;33OCTOBER;33NOVEMBER;33DECEMBER;00SQUARE HG;07ERG;08V
00LIMITED LIABILITY SIGN;00CIRCLED KATAKANA A;17I;17U;17E;17O;17KA;18I;18U;18E;18O;17SA;18I;18U
18E;18O;17TA;18I;18U;18E;18O;17NA;18I;18U;18E;18O;17HA;18I;18U;18E;18O;17MA;18I;18U;18E;18O;17YA
18U;18O;17RA;18I;18U;18E;18O;17WA;18I;18E;18O;00SQUARE ERA NAME REIWA;07APAATO;08RUHUA;08NPEA
08ARU;07ININGU;09TI;07UON;07ESUKUUDO;08EKAA;07ONSU;08OMU;07KAIRI;09RATTO;10ORII;07GARON;09NMA
08IGA;09NII;07KYURII;07GIRUDAA;07KIRO;11GURAMU;11MEETORU;11WATTO;07GURAMU;13TON;07KURUZEIRO;10OONE
08EESU;08ORUNA;09OPO;07SAIKURU;09NTIIMU;08IRINGU;08ENTI;11O;07DAASU;08ESI;08ORU;07TON;07NANO
08OTTO;07HAITU;07PAASENTO;10TU;07BAARERU;07PIASUTORU;09KURU;10O;07BIRU;07HUARADDO;09IITO
07BUSSYERU;07HURAN;08EKUTAARU;07PESO;09NIHI;07HERUTU;07PENSU;09EZI;07BEETA;07POINTO;07BORUTO;07HON
07PONDO;07HOORU;10N;07MAIKURO;10RU;09HHA;09RUKU;09NSYON;08IKURON;09RI;11BAARU;08EGA;11TON;09ETORU
07YAADO;10RU;08UAN;07RITTORU;09RA;08UPII;09UBURU;08EMU;09NTOGEN;07WATTO
00IDEOGRAPHIC TELEGRAPH SYMBOL FOR HOUR ZERO;38ONE;38TWO;39HREE;38FOUR;39IVE;38SIX;39EVEN;38EIGHT
38NINE;38TEN;38ELEVEN;38TWELVE;39HIRTEEN;38FOURTEEN;39IFTEEN;38SIXTEEN;39EVENTEEN;38EIGHTEEN
38NINETEEN;38TWENTY;44-ONE;45TWO;46HREE;45FOUR;00SQUARE HPA;07DA;07AU;07BAR;07OV;07PC;07DM
09 SQUARED;10CUBED;07IU;07ERA NAME HEISEI;16SYOUWA;16TAISYOU;16MEIZI;07CORPORATION;07PA AMPS;07NA
07MU A;08A;07KA;08B;07MB;07GB;07CAL;07KCAL;07PF;07NF;07MU F;10G;08G;07KG;07HZ;07KHZ;07MHZ;07GHZ
07THZ;07MU L;08L;07DL;07KL;07FM;07NM;07MU M;08M;07CM;07KM;07MM SQUARED;07CM SQUARED;07M SQUARED
07KM SQUARED;07MM CUBED;07CM CUBED;07M CUBED;07KM CUBED;07M OVER S;15 SQUARED;07PA;07KPA;07MPA
07GPA;07RAD;10 OVER S;17 SQUARED;07PS;07NS;07MU S;08S;07PV;07NV;07MU V;08V;07KV;07MV MEGA;07PW
07NW;07MU W;08W;07KW;07MW MEGA;07K OHM;07M OHM;07AM;07BQ;07CC;08D;08 OVER KG;08O;07DB;07GY;07HA
08P;07IN;07KK;08M CAPITAL;08T;07LM;08N;08OG;08X;07MB SMALL;08IL;08OL;07PH;08M;08PM;08R;07SR;08V
07WB;07V OVER M;07A OVER M;00IDEOGRAPHIC TELEGRAPH SYMBOL FOR DAY ONE;37TWO;38HREE;37FOUR;38IVE
37SIX;38EVEN;37EIGHT;37NINE;37TEN;37ELEVEN;37TWELVE;38HIRTEEN;37FOURTEEN;38IFTEEN;37SIXTEEN
38EVENTEEN;37EIGHTEEN;37NINETEEN;37TWENTY;43-ONE;44TWO;45HREE;44FOUR;45IVE;44SIX;45EVEN;44EIGHT
44NINE;38HIRTY;43-ONE;00SQUARE GAL;+4DC0;00HEXAGRAM FOR THE CREATIVE HEAVEN;17RECEPTIVE EARTH
13DIFFICULTY AT THE BEGINNING;13YOUTHFUL FOLLY;13WAITING;13CONFLICT;13THE ARMY;13HOLDING TOGETHER
13SMALL TAMING;13TREADING;13PEACE;13STANDSTILL;13FELLOWSHIP;13GREAT POSSESSION;13MODESTY
13ENTHUSIASM;13FOLLOWING;13WORK ON THE DECAYED;13APPROACH;13CONTEMPLATION;13BITING THROUGH;13GRACE
13SPLITTING APART;13RETURN;13INNOCENCE;13GREAT TAMING;13MOUTH CORNERS;13GREAT PREPONDERANCE
13THE ABYSMAL WATER;17CLINGING FIRE;13INFLUENCE;13DURATION;13RETREAT;13GREAT POWER;13PROGRESS
13DARKENING OF THE LIGHT;13THE FAMILY;13OPPOSITION;14BSTRUCTION;13DELIVERANCE;15CREASE;13INCREASE
13BREAKTHROUGH;13COMING TO MEET;13GATHERING TOGETHER;13PUSHING UPWARD;13OPPRESSION;13THE WELL
13REVOLUTION;13THE CAULDRON;17AROUSING THUNDER;17KEEPING STILL MOUNTAIN;13DEVELOPMENT
13THE MARRYING MAIDEN;13ABUNDANCE;13THE WANDERER;17GENTLE WIND;17JOYOUS LAKE;13DISPERSION
13LIMITATION;13INNER TRUTH;13SMALL PREPONDERANCE;13AFTER COMPLETION;13BEFORE COMPLETION;+A000
00YI SYLLABLE IT;13X;13;13P;13ET;14X;14;14P;12AT;13X;13;13P;12UOX;14;14P;12OT;13X;13;13P;12EX;13
12WU;12BIT;14X;14;14P;14ET;15X;15;15P;13AT;14X;14;14P;13UOX;15;15P;13OT;14X;14;14P;13EX;14;14P
13UT;14X;14;14P;14RX;15;13YT;14X;14;14P;14RX;15;12PIT;14X;14;14P;14EX;15;15P;13AT;14X;14;14P;13UOX
15;15P;13OT;14X;14;14P;13UT;14X;14;14P;14RX;15;13YT;14X;14;14P;14RX;15;12BBIT;15X;15;15P;15ET;16X
16;16P;14AT;15X;15;15P;14UOX;16;16P;14OT;15X;15;15P;14EX;15;15P;14UT;15X;15;15P;15RX;16;14YT;15X
15;15P;12NBIT;15X;15;15P;15EX;16;16P;14AT;15X;15;15P;14OT;15X;15;15P;14UT;15X;15;15P;15RX;16;14YT
15X;15;15P;15RX;16;12HMIT;15X;15;15P;15EX;16;16P;14AT;15X;15;15P;14UOX;16;16P;14OT;15X;15;15P;14UT
15X;15;15P;15RX;16;14YX;15;15P;15RX;16;12MIT;14X;14;14P;14EX;15;15P;13AT;14X;14;14P;13UOT;15X;15
15P;13OT;14X;14;14P;13EX;14;13UT;14X;14;14P;14RX;15;13YT;14X;14;14P;12FIT;14X;14;14P;13AT;14X;14
14P;13OX;14;14P;13UT;14X;14;14P;14RX;15;13YT;14X;14;14P;12VIT;14X;14;14P;14ET;15X;15;15P;13AT;14X
14;14P;13OT;14X;14;14P;13EX;14P;13UT;14X;14;14P;14RX;15;13YT;14X;14;14P;14RX;15;12DIT;14X;14;14P
14EX;15;15P;13AT;14X;14;14P;13UOX;15;13OT;14X;14;14P;13EX;14;14P;13UT;14X;14;14P;14RX;15;12TIT;14X
14;14P;14EX;15;15P;13AT;14X;14;14P;13UOT;15X;15;15P;13OT;14X;14;14P;13EX;14;14P;13UT;14X;14;14P
14RX;15;12DDIT;15X;15;15P;15EX;16;16P;14AT;15X;15;15P;14UOX;16;16P;14OT;15X;15;15P;14EX;15;15P
14UT;15X;15;15P;15RX;16;12NDIT;15X;15;15P;15EX;16;14AT;15X;15;15P;14OT;15X;15;15P;14EX;15;15P;14UT
15X;15;15P;15RX;16;12HNIT;15X;15;15P;15ET;16X;16;16P;14AT;15X;15;15P;14UOX;16;14OT;15X;15P;14EX;15
15P;14UT;12NIT;14X;14;14P;14EX;15;15P;13AX;14;14P;13UOX;15;15P;13OT;14X;14;14P;13EX;14;14P;13UT
14X;14;14P;14RX;15;12HLIT;15X;15;15P;15EX;16;16P;14AT;15X;15;15P;14UOX;16;16P;14OX;15;15P;14EX;15
15P;14UT;15X;15;15P;15RX;16;14YT;15X;15;15P;15RX;16;12LIT;14X;14;14P;14ET;15X;15;15P;13AT;14X;14
14P;13UOT;15X;15;15P;13OT;14X;14;14P;13EX;14;14P;13UT;14X;14;14P;14RX;15;13YT;14X;14;14P;14RX;15
12GIT;14X;14;14P;14ET;15X;15;15P;13AT;14X;14;14P;13UOT;15X;15;15P;13OT;14X;14;14P;13ET;14X;14;14P
13UT;14X;14;14P;14RX;15;12KIT;14X;14;14P;14EX;15;15P;13AT;14X;14;14P;13UOX;15;15P;13OT;14X;14;14P
13ET;14X;14;14P;13UT;14X;14;14P;14RX;15;12GGIT;15X;15;15EX;16;16P;14AT;15X;15;15P;14UOT;16X;16;16P
14OT;15X;15;15P;14ET;15X;15;15P;14UT;15X;15;15P;15RX;16;12MGIEX;16;14AT;15X;15;15P;14UOX;16;16P
14OT;15X;15;15P;14EX;15;15P;14UT;15X;15;15P;15RX;16;12HXIT;15X;15;15P;15ET;16X;16;16P;14AT;15X;15
15P;14UOT;16X;16;16P;14OT;15X;15;15P;14EX;15;15P;12NGIEX;16;16P;14AT;15X;15;15P;14UOT;16X;16;14OT
15X;15;15P;14EX;15;15P;12HIT;14EX;15;13AT;14X;14;14P;13UOT;15X;15;15P;13OT;14X;14;14P;13EX;14;14P
12WAT;14X;14;14P;13UOX;15;15P;13OX;14;14P;13EX;14;14P;12ZIT;14X;14;14P;14EX;15;15P;13AT;14X;14;14P
13UOX;15;15P;13OT;14X;14;14P;13EX;14;14P;13UT;14X;14;14P;14RX;15;13YT;14X;14;14P;14RX;15;12CIT;14X
14;14P;14ET;15X;15;15P;13AT;14X;14;14P;13UOX;15;15P;13OT;14X;14;14P;13EX;14;14P;13UT;14X;14;14P
14RX;15;13YT;14X;14;14P;14RX;15;12ZZIT;15X;15;15P;15ET;16X;16;16P;14AT;15X;15;15P;14OX;15;15P;14EX
15;15P;14UX;15;15P;15RX;16;14YT;15X;15;15P;15RX;16;12NZIT;15X;15;15P;15EX;16;16P;14AT;15X;15;15P
14UOX;16;14OX;15P;14EX;15;14UX;15;15P;15RX;16;14YT;15X;15;15P;15RX;16;12SIT;14X;14;14P;14EX;15;15P
13AT;14X;14;14P;13UOX;15;15P;13OT;14X;14;14P;13EX;14;14P;13UT;14X;14;14P;14RX;15;13YT;14X;14;14P
14RX;15;13SIT;15X;15;15P;15EX;16;16P;14AT;15X;15;15P;14OT;15X;15;15P;14EX;15;15P;14UT;15X;15;15P
14YT;15X;15;15P;15RX;16;12ZHAT;15X;15;15P;14UOX;16;16P;14OT;15X;15;15P;14ET;15X;15;15P;14UT;15X;15
15P;15RX;16;14YT;15X;15;15P;15RX;16;12CHAT;15X;15;15P;14UOT;16X;16;16P;14OT;15X;15;15P;14ET;15X;15
15P;14UX;15;15P;15RX;16;14YT;15X;15;15P;15RX;16;12RRAX;15;14UOX;16;14OT;15X;15;15P;14ET;15X;15;15P
14UT;15X;15;15P;15RX;16;14YT;15X;15;15P;15RX;16;12NRAT;15X;15;15P;14OX;15;15P;14ET;15X;15;15P;14UT
15X;15;15P;15RX;16;14YT;15X;15;15P;15RX;16;12SHAT;15X;15;15P;14UOX;16;16P;14OT;15X;15;15P;14ET;15X
15;15P;14UT;15X;15;15P;15RX;16;14YT;15X;15;15P;15RX;16;12RAT;14X;14;14P;13UOX;15;15P;13OT;14X;14
14P;13EX;14;14P;13UT;14X;14;14P;14RX;15;13YT;14X;14;14P;14RX;15;12JIT;14X;14;14P;14ET;15X;15;15P
13UOT;15X;15;15P;13OT;14X;14;14P;13UT;14X;14;14P;14RX;15;13YT;14X;14;14P;14RX;15;12QIT;14X;14;14P
14ET;15X;15;15P;13UOT;15X;15;15P;13OT;14X;14;14P;13UT;14X;14;14P;14RX;15;13YT;14X;14;14P;14RX;15
12JJIT;15X;15;15P;15ET;16X;16;16P;14UOX;16;16P;14OT;15X;15;15P;14UT;15X;15;15P;15RX;16;14YT;15X;15
15P;12NJIT;15X;15;15P;15ET;16X;16;16P;14UOX;16;14OT;15X;15;15P;14UX;15;15P;15RX;16;14YT;15X;15;15P
15RX;16;13YIT;15X;15;15P;15ET;16X;16;16P;14UOX;16;16P;14OT;15X;15;15P;14UT;15X;15;15P;12XIT;14X;14
14P;14ET;15X;15;15P;13UOX;15;13OT;14X;14;14P;13YT;14X;14;14P;14RX;15;12YIT;14X;14;14P;14ET;15X;15
15P;13UOT;15X;15;15P;13OT;14X;14;14P;13UT;14X;14;14P;14RX;15;13YT;14X;14;14P;14RX;15;+A490
03RADICAL QOT;11LI;11KIT;11NYIP;11CYP;11SSI;11GGOP;12EP;11MI;11HXIT;11LYR;11BBUT;11MOP;11YO;11PUT
11HXUO;11TAT;11GA;11ZUP;11CYT;11DDUR;11BUR;11GGUO;11NYOP;11TU;11OP;11JJUT;11ZOT;11PYT;11HMO;11YIT
11VUR;11SHY;11VEP;11ZA;11JO;11NZUP;11JJY;11GOT;11JJIE;11WO;11DU;11SHUR;11LIE;11CY;12UOP;12IP
11HXOP;11SHAT;11ZUR;11SHOP;11CHE;11ZZIET;11NBIE;11KE;+A4D0;00LISU LETTER BA;12PA;13HA;12DA;12TA
13HA;12GA;12KA;13HA;12JA;12CA;13HA;12DZA;12TSA;14HA;12MA;12NA;12LA;12SA;12ZHA;13A;12NGA;12HA;12XA
12HHA;12FA;12WA;12SHA;12YA;12GHA;12A;13E;12E;13U;12I;12O;12U;13E;13H;12OE;12TONE MYA TI;17NA PO
17MYA CYA;21BO;21NA;21JEU;05PUNCTUATION COMMA;17FULL STOP;00VAI SYLLABLE EE;15N;13HEE;13WEE;16N
13PEE;13BHEE;14EE;13MBEE;13KPEE;13MGBEE;13GBEE;13FEE;13VEE;13TEE;14HEE;13DHEE;15HEE;13LEE;13REE
13DEE;13NDEE;13SEE;14HEE;13ZEE;14HEE;13CEE;13JEE;13NJEE;13YEE;13KEE;13NGGEE;13GEE;13MEE;13NEE
14YEE;13I;14N;13HI;15N;13WI;15N;13PI;13BHI;14I;13MBI;13KPI;13MGBI;13GBI;13FI;13VI;13TI;14HI;13DHI
15HI;13LI;13RI;13DI;13NDI;13SI;14HI;13ZI;14HI;13CI;13JI;13NJI;13YI;13KI;13NGGI;13GI;13MI;13NI;14YI
13A;14N;13NGAN;13HA;15N;13WA;15N;13PA;13BHA;14A;13MBA;13KPA;16N;13MGBA;13GBA;13FA;13VA;13TA;14HA
13DHA;15HA;13LA;13RA;13DA;13NDA;13SA;14HA;13ZA;14HA;13CA;13JA;13NJA;13YA;13KA;15N;13NGGA;13GA;13MA
13NA;14YA;13OO;15N;13HOO;13WOO;16N;13POO;13BHOO;14OO;13MBOO;13KPOO;13MGBOO;13GBOO;13FOO;13VOO
13TOO;14HOO;13DHOO;15HOO;13LOO;13ROO;13DOO;13NDOO;13SOO;14HOO;13ZOO;14HOO;13COO;13JOO;13NJOO;13YOO
13KOO;13NGGOO;13GOO;13MOO;13NOO;14YOO;13U;14N;13HU;15N;13WU;15N;13PU;13BHU;14U;13MBU;13KPU;13MGBU
13GBU;13FU;13VU;13TU;14HU;13DHU;15HU;13LU;13RU;13DU;13NDU;13SU;14HU;13ZU;14HU;13CU;13JU;13NJU;13YU
13KU;13NGGU;13GU;13MU;13NU;14YU;13O;14N;13NGON;13HO;15N;13WO;15N;13PO;13BHO;14O;13MBO;13KPO;13MGBO
13GBO;16N;13FO;13VO;13TO;14HO;13DHO;15HO;13LO;13RO;13DO;13NDO;13SO;14HO;13ZO;14HO;13CO;13JO;13NJO
13YO;13KO;13NGGO;13GO;13MO;13NO;14YO;13E;14N;13NGEN;13HE;15N;13WE;15N;13PE;13BHE;14E;13MBE;13KPE
16N;13MGBE;13GBE;16N;13FE;13VE;13TE;14HE;13DHE;15HE;13LE;13RE;13DE;13NDE;13SE;14HE;13ZE;14HE;13CE
13JE;13NJE;13YE;13KE;13NGGE;17N;13GE;15N;13ME;13NE;14YE;14G;13LENGTHENER;04COMMA;04FULL STOP
04QUESTION MARK;04SYLLABLE NDOLE FA;19KA;19SOO;06MBOL FEENG;11KEENG;11TING;11NII;11BANG;11FAA
11TAA;11DANG;12OONG;11KUNG;11TONG;11DO-O;11JONG;04DIGIT ZERO;10ONE;10TWO;11HREE;10FOUR;11IVE;10SIX
11EVEN;10EIGHT;10NINE;04SYLLABLE NDOLE MA;19DO;+A640;00CYRILLIC CAPITAL LETTER ZEMLYA
09SMALL LETTER ZEMLYA;09CAPITAL LETTER DZELO;09SMALL LETTER DZELO;09CAPITAL LETTER REVERSED DZE
09SMALL LETTER REVERSED DZE;09CAPITAL LETTER IOTA;09SMALL LETTER IOTA;09CAPITAL LETTER DJERV
09SMALL LETTER DJERV;09CAPITAL LETTER MONOGRAPH UK;09SMALL LETTER MONOGRAPH UK
09CAPITAL LETTER BROAD OMEGA;09SMALL LETTER BROAD OMEGA;09CAPITAL LETTER NEUTRAL YER
09SMALL LETTER NEUTRAL YER;09CAPITAL LETTER YERU WITH BACK YER;09SMALL LETTER YERU WITH BACK YER
09CAPITAL LETTER IOTIFIED YAT;09SMALL LETTER IOTIFIED YAT;09CAPITAL LETTER REVERSED YU
09SMALL LETTER REVERSED YU;09CAPITAL LETTER IOTIFIED A;09SMALL LETTER IOTIFIED A
09CAPITAL LETTER CLOSED LITTLE YUS;09SMALL LETTER CLOSED LITTLE YUS;09CAPITAL LETTER BLENDED YUS
09SMALL LETTER BLENDED YUS;09CAPITAL LETTER IOTIFIED CLOSED LITTLE YUS
09SMALL LETTER IOTIFIED CLOSED LITTLE YUS;09CAPITAL LETTER YN;09SMALL LETTER YN
09CAPITAL LETTER REVERSED TSE;09SMALL LETTER REVERSED TSE;09CAPITAL LETTER SOFT DE
09SMALL LETTER SOFT DE;09CAPITAL LETTER SOFT EL;09SMALL LETTER SOFT EL;09CAPITAL LETTER SOFT EM
09SMALL LETTER SOFT EM;09CAPITAL LETTER MONOCULAR O;09SMALL LETTER MONOCULAR O
09CAPITAL LETTER BINOCULAR O;09SMALL LETTER BINOCULAR O;09CAPITAL LETTER DOUBLE MONOCULAR O
09SMALL LETTER DOUBLE MONOCULAR O;09LETTER MULTIOCULAR O;01OMBINING CYRILLIC VZMET
19TEN MILLIONS SIGN;19HUNDRED MILLIONS SIGN;19THOUSAND MILLIONS SIGN;00SLAVONIC ASTERISK
00COMBINING CYRILLIC LETTER UKRAINIAN IE;26I;26YI;26U;26HARD SIGN;26YERU;26SOFT SIGN;26OMEGA
19KAVYKA;19PAYEROK;01YRILLIC KAVYKA;09PAYEROK;09CAPITAL LETTER DWE;09SMALL LETTER DWE
09CAPITAL LETTER DZWE;09SMALL LETTER DZWE;09CAPITAL LETTER ZHWE;09SMALL LETTER ZHWE
09CAPITAL LETTER CCHE;09SMALL LETTER CCHE;09CAPITAL LETTER DZZE;09SMALL LETTER DZZE
09CAPITAL LETTER TE WITH MIDDLE HOOK;09SMALL LETTER TE WITH MIDDLE HOOK;09CAPITAL LETTER TWE
09SMALL LETTER TWE;09CAPITAL LETTER TSWE;09SMALL LETTER TSWE;09CAPITAL LETTER TSSE
09SMALL LETTER TSSE;09CAPITAL LETTER TCHE;09SMALL LETTER TCHE;09CAPITAL LETTER HWE
09SMALL LETTER HWE;09CAPITAL LETTER SHWE;09SMALL LETTER SHWE;09CAPITAL LETTER DOUBLE O
09SMALL LETTER DOUBLE O;09CAPITAL LETTER CROSSED O;09SMALL LETTER CROSSED O
00MODIFIER LETTER CYRILLIC HARD SIGN;25SOFT SIGN;00COMBINING CYRILLIC LETTER EF;26IOTIFIED E
00BAMUM LETTER A;13KA;13U;13KU;13EE;13REE;13TAE;13O;13NYI;13I;13LA;13PA;13RII;15EE;13LEEEE;13MEEEE
13TAA;13NDAA;14JAEM;13M;13SUU;13MU;13SHII;14I;14HEUX;14EUX;13KYEE;14ET;13NUAE;15;14JUAE;13YOQ
13SHU;13YUQ;14A;13NSHA;13KEUX;13PEUX;13NJEE;14TEE;13PUE;13WUE;13PEE;13FEE;13RU;13LU;13MI;13NI
13REUX;14AE;13KEN;13NGKWAEN;15GA;15A;13SHO;13PUAE;13FU;14OM;13WA;13NA;13LI;13PI;13LOQ;13KO;13MBEN
13REN;13MEN;14A;13TI;13KI;13MO;14BAA;13TET;13KPA;13TEN;13NTUU;13SAMBA;13FAAMAE;13KOVUU;15GHOM
06COMBINING MARK KOQNDON;21TUKWENTIS;06NJAEMLI;06FULL STOP;06COLON;08MMA;06SEMICOLON
06QUESTION MARK;+A700;00MODIFIER LETTER CHINESE TONE YIN PING;30ANG PING;30IN SHANG;30ANG SHANG
30IN QU;30ANG QU;30IN RU;30ANG RU;16EXTRA-HIGH DOTTED TONE BAR;16HIGH DOTTED TONE BAR
16MID DOTTED TONE BAR;16LOW DOTTED TONE BAR;16EXTRA-LOW DOTTED TONE BAR
22HIGH DOTTED LEFT-STEM TONE BAR;16HIGH DOTTED LEFT-STEM TONE BAR;16MID DOTTED LEFT-STEM TONE BAR
16LOW DOTTED LEFT-STEM TONE BAR;16EXTRA-LOW DOTTED LEFT-STEM TONE BAR;22HIGH LEFT-STEM TONE BAR
16HIGH LEFT-STEM TONE BAR;16MID LEFT-STEM TONE BAR;16LOW LEFT-STEM TONE BAR
16EXTRA-LOW LEFT-STEM TONE BAR;16DOT VERTICAL BAR;20SLASH;20HORIZONTAL BAR
16LOWER RIGHT CORNER ANGLE;16RAISED UP ARROW;23DOWN ARROW;23EXCLAMATION MARK
23INVERTED EXCLAMATION MARK;16LOW INVERTED EXCLAMATION MARK;16STRESS AND HIGH TONE;27LOW TONE
00LATIN CAPITAL LETTER EGYPTOLOGICAL ALEF;06SMALL LETTER EGYPTOLOGICAL ALEF
06CAPITAL LETTER EGYPTOLOGICAL AIN;06SMALL LETTER EGYPTOLOGICAL AIN;06CAPITAL LETTER HENG
06SMALL LETTER HENG;06CAPITAL LETTER TZ;06SMALL LETTER TZ;06CAPITAL LETTER TRESILLO
06SMALL LETTER TRESILLO;06CAPITAL LETTER CUATRILLO;06SMALL LETTER CUATRILLO
06CAPITAL LETTER CUATRILLO WITH COMMA;06SMALL LETTER CUATRILLO WITH COMMA;06LETTER SMALL CAPITAL F
27S;06CAPITAL LETTER AA;06SMALL LETTER AA;06CAPITAL LETTER AO;06SMALL LETTER AO
06CAPITAL LETTER AU;06SMALL LETTER AU;06CAPITAL LETTER AV;06SMALL LETTER AV
06CAPITAL LETTER AV WITH HORIZONTAL BAR;06SMALL LETTER AV WITH HORIZONTAL BAR;06CAPITAL LETTER AY
06SMALL LETTER AY;06CAPITAL LETTER REVERSED C WITH DOT;06SMALL LETTER REVERSED C WITH DOT
06CAPITAL LETTER K WITH STROKE;06SMALL LETTER K WITH STROKE
06CAPITAL LETTER K WITH DIAGONAL STROKE;06SMALL LETTER K WITH DIAGONAL STROKE
06CAPITAL LETTER K WITH STROKE AND DIAGONAL STROKE
06SMALL LETTER K WITH STROKE AND DIAGONAL STROKE;06CAPITAL LETTER BROKEN L;06SMALL LETTER BROKEN L
06CAPITAL LETTER L WITH HIGH STROKE;06SMALL LETTER L WITH HIGH STROKE
06CAPITAL LETTER O WITH LONG STROKE OVERLAY;06SMALL LETTER O WITH LONG STROKE OVERLAY
06CAPITAL LETTER O WITH LOOP;06SMALL LETTER O WITH LOOP;06CAPITAL LETTER OO;06SMALL LETTER OO
06CAPITAL LETTER P WITH STROKE THROUGH DESCENDER;06SMALL LETTER P WITH STROKE THROUGH DESCENDER
06CAPITAL LETTER P WITH FLOURISH;06SMALL LETTER P WITH FLOURISH
06CAPITAL LETTER P WITH SQUIRREL TAIL;06SMALL LETTER P WITH SQUIRREL TAIL
06CAPITAL LETTER Q WITH STROKE THROUGH DESCENDER;06SMALL LETTER Q WITH STROKE THROUGH DESCENDER
06CAPITAL LETTER Q WITH DIAGONAL STROKE;06SMALL LETTER Q WITH DIAGONAL STROKE
06CAPITAL LETTER R ROTUNDA;06SMALL LETTER R ROTUNDA;06CAPITAL LETTER RUM ROTUNDA
06SMALL LETTER RUM ROTUNDA;06CAPITAL LETTER V WITH DIAGONAL STROKE
06SMALL LETTER V WITH DIAGONAL STROKE;06CAPITAL LETTER VY;06SMALL LETTER VY
06CAPITAL LETTER VISIGOTHIC Z;06SMALL LETTER VISIGOTHIC Z;06CAPITAL LETTER THORN WITH STROKE
06SMALL LETTER THORN WITH STROKE;06CAPITAL LETTER THORN WITH STROKE THROUGH DESCENDER
06SMALL LETTER THORN WITH STROKE THROUGH DESCENDER;06CAPITAL LETTER VEND;06SMALL LETTER VEND
06CAPITAL LETTER ET;06SMALL LETTER ET;06CAPITAL LETTER IS;06SMALL LETTER IS;06CAPITAL LETTER CON
06SMALL LETTER CON;00MODIFIER LETTER US;00LATIN SMALL LETTER DUM;19LUM;19MUM;19NUM;19RUM
06LETTER SMALL CAPITAL RUM;06SMALL LETTER TUM;19UM;06CAPITAL LETTER INSULAR D
06SMALL LETTER INSULAR D;06CAPITAL LETTER INSULAR F;06SMALL LETTER INSULAR F
06CAPITAL LETTER INSULAR G;21TURNED INSULAR G;06SMALL LETTER TURNED INSULAR G
06CAPITAL LETTER TURNED L;06SMALL LETTER TURNED L;06CAPITAL LETTER INSULAR R
06SMALL LETTER INSULAR R;06CAPITAL LETTER INSULAR S;06SMALL LETTER INSULAR S
06CAPITAL LETTER INSULAR T;06SMALL LETTER INSULAR T;00MODIFIER LETTER LOW CIRCUMFLEX ACCENT
16COLON;16SHORT EQUALS SIGN;00LATIN CAPITAL LETTER SALTILLO;06SMALL LETTER SALTILLO
06CAPITAL LETTER TURNED H;06SMALL LETTER L WITH RETROFLEX HOOK AND BELT;06LETTER SINOLOGICAL DOT
06CAPITAL LETTER N WITH DESCENDER;06SMALL LETTER N WITH DESCENDER;06CAPITAL LETTER C WITH BAR
06SMALL LETTER C WITH BAR;26PALATAL HOOK;19H WITH PALATAL HOOK;06CAPITAL LETTER B WITH FLOURISH
06SMALL LETTER B WITH FLOURISH;06CAPITAL LETTER F WITH STROKE;06SMALL LETTER F WITH STROKE
06CAPITAL LETTER VOLAPUK AE;06SMALL LETTER VOLAPUK AE;06CAPITAL LETTER VOLAPUK OE
06SMALL LETTER VOLAPUK OE;06CAPITAL LETTER VOLAPUK UE;06SMALL LETTER VOLAPUK UE
06CAPITAL LETTER G WITH OBLIQUE STROKE;06SMALL LETTER G WITH OBLIQUE STROKE
06CAPITAL LETTER K WITH OBLIQUE STROKE;06SMALL LETTER K WITH OBLIQUE STROKE
06CAPITAL LETTER N WITH OBLIQUE STROKE;06SMALL LETTER N WITH OBLIQUE STROKE
06CAPITAL LETTER R WITH OBLIQUE STROKE;06SMALL LETTER R WITH OBLIQUE STROKE
06CAPITAL LETTER S WITH OBLIQUE STROKE;06SMALL LETTER S WITH OBLIQUE STROKE
06CAPITAL LETTER H WITH HOOK;21REVERSED OPEN E;21SCRIPT G;21L WITH BELT;21SMALL CAPITAL I
06LETTER SMALL CAPITAL Q;06CAPITAL LETTER TURNED K;28T;21J WITH CROSSED-TAIL;21CHI;21BETA
06SMALL LETTER BETA;06CAPITAL LETTER OMEGA;06SMALL LETTER OMEGA;06CAPITAL LETTER U WITH STROKE
06SMALL LETTER U WITH STROKE;06CAPITAL LETTER GLOTTAL A;06SMALL LETTER GLOTTAL A
06CAPITAL LETTER GLOTTAL I;06SMALL LETTER GLOTTAL I;06CAPITAL LETTER GLOTTAL U
06SMALL LETTER GLOTTAL U;06CAPITAL LETTER OLD POLISH O;06SMALL LETTER OLD POLISH O
06CAPITAL LETTER ANGLICANA W;06SMALL LETTER ANGLICANA W;06CAPITAL LETTER C WITH PALATAL HOOK
21S WITH HOOK;21Z WITH PALATAL HOOK;21D WITH SHORT STROKE OVERLAY
06SMALL LETTER D WITH SHORT STROKE OVERLAY;06CAPITAL LETTER S WITH SHORT STROKE OVERLAY
06SMALL LETTER S WITH SHORT STROKE OVERLAY;+A7D0;06CAPITAL LETTER CLOSED INSULAR G
06SMALL LETTER CLOSED INSULAR G;+A7D3;19DOUBLE THORN;+A7D5;26WYNN;06CAPITAL LETTER MIDDLE SCOTS S
06SMALL LETTER MIDDLE SCOTS S;06CAPITAL LETTER SIGMOID S;06SMALL LETTER SIGMOID S;+A7F2
00MODIFIER LETTER CAPITAL C;24F;24Q;00LATIN CAPITAL LETTER REVERSED HALF H
06SMALL LETTER REVERSED HALF H;06EPIGRAPHIC LETTER SIDEWAYS I
00MODIFIER LETTER CAPITAL H WITH STROKE;16SMALL LIGATURE OE;00LATIN LETTER SMALL CAPITAL TURNED M
06EPIGRAPHIC LETTER REVERSED F;33P;24INVERTED M;25 LONGA;24ARCHAIC M;00SYLOTI NAGRI LETTER A;20I
13SIGN DVISVARA;13LETTER U;20E;20O;13SIGN HASANTA;13LETTER KO;21HO;20GO;21HO;13SIGN ANUSVARA
13LETTER CO;21HO;20JO;21HO;20TTO;22HO;20DDO;22HO;20TO;21HO;20DO;21HO;20NO;20PO;21HO;20BO;21HO;20MO
20RO;20LO;20RRO;20SO;20HO;13VOWEL SIGN A;24I;24U;24E;24OO;13POETRY MARK-1;252;253;254
13SIGN ALTERNATE HASANTA;+A830;00NORTH INDIC FRACTION ONE QUARTER;25HALF;21THREE QUARTERS
21ONE SIXTEENTH;25EIGHTH;21THREE SIXTEENTHS;12QUARTER MARK;12PLACEHOLDER MARK;12RUPEE MARK
12QUANTITY MARK;+A840;00PHAGS-PA LETTER KA;17HA;16GA;16NGA;16CA;17HA;16JA;16NYA;16TA;17HA;16DA
16NA;16PA;17HA;16BA;16MA;16TSA;18HA;16DZA;16WA;16ZHA;17A;16SMALL A;16YA;16RA;16LA;16SHA;17A;16HA
16A;16I;16U;16E;16O;16QA;16XA;16FA;16GGA;16EE;09SUBJOINED LETTER WA;26YA;09LETTER TTA;18HA;16DDA
16NNA;16ALTERNATE YA;16VOICELESS SHA;21D HA;16ASPIRATED FA;09SUBJOINED LETTER RA
11PERFIXED LETTER RA;09LETTER CANDRABINDU;09SINGLE HEAD MARK;09DOUBLE HEAD MARK;09MARK SHAD
14DOUBLE SHAD;+A880;00SAURASHTRA SIGN ANUSVARA;16VISARGA;11LETTER A;19A;18I;19I;18U;19U
18VOCALIC R;27R;26L;27L;18E;19E;18AI;18O;19O;18AU;18KA;19HA;18GA;19HA;18NGA;18CA;19HA;18JA;19HA
18NYA;18TTA;20HA;18DDA;20HA;18NNA;18TA;19HA;18DA;19HA;18NA;18PA;19HA;18BA;19HA;18MA;18YA;18RA;18LA
18VA;18SHA;19SA;19A;18HA;18LLA;11CONSONANT SIGN HAARU;11VOWEL SIGN AA;22I;23I;22U;23U;22VOCALIC R
31R;30L;31L;22E;23E;22AI;22O;23O;22AU;11SIGN VIRAMA;16CANDRABINDU;+A8CE;11DANDA;12OUBLE DANDA
12IGIT ZERO;17ONE;17TWO;18HREE;17FOUR;18IVE;17SIX;18EVEN;17EIGHT;17NINE;+A8E0
00COMBINING DEVANAGARI DIGIT ZERO;27ONE;27TWO;28HREE;27FOUR;28IVE;27SIX;28EVEN;27EIGHT;27NINE
21LETTER A;28U;28KA;28NA;28PA;28RA;28VI;21SIGN AVAGRAHA;00DEVANAGARI SIGN SPACING CANDRABINDU
16CANDRABINDU VIRAMA;16DOUBLE CANDRABINDU VIRAMA;16CANDRABINDU TWO;29HREE;28AVAGRAHA;16PUSHPIKA
11GAP FILLER;11CARET;11HEADSTROKE;11SIGN SIDDHAM;11JAIN OM;11LETTER AY;11VOWEL SIGN AY
00KAYAH LI DIGIT ZERO;15ONE;15TWO;16HREE;15FOUR;16IVE;15SIX;16EVEN;15EIGHT;15NINE;09LETTER KA;17HA
16GA;16NGA;16SA;17HA;16ZA;16NYA;16TA;16HTA;16NA;16PA;17HA;16MA;16DA;16BA;16RA;16YA;16LA;16WA;16THA
16HA;16VA;16CA;16A;16OE;16I;16OO;09VOWEL UE;15E;15U;15EE;15O;09TONE PLOPHU;14CALYA;19 PLOPHU
09SIGN CWI;14SHYA;00REJANG LETTER KA;14GA;14NGA;14TA;14DA;14NA;14PA;14BA;14MA;14CA;14JA;14NYA;14SA
14RA;14LA;14YA;14WA;14HA;14MBA;14NGGA;15DA;15YJA;14A;07VOWEL SIGN I;18U;18E;18AI;18O;18AU;18EU;19A
07CONSONANT SIGN NG;23;22R;22H;07VIRAMA;+A95F;07SECTION MARK;00HANGUL CHOSEONG TIKEUT-MIEUM
23PIEUP;23SIOS;23CIEUC;16RIEUL-KIYEOK;22SSANGKIYEOK;22TIKEUT;22SSANGTIKEUT;22MIEUM;22PIEUP
22SSANGPIEUP;22KAPYEOUNPIEUP;22SIOS;22CIEUC;22KHIEUKH;16MIEUM-KIYEOK;22TIKEUT;22SIOS
16PIEUP-SIOS-THIEUTH;22KHIEUKH;22HIEUH;16SSANGSIOS-PIEUP;16IEUNG-RIEUL;22HIEUH;16SSANGCIEUC-HIEUH
21THIEUTH;16PHIEUPH-HIEUH;16HIEUH-SIOS;16SSANGYEORINHIEUH;+A980;00JAVANESE SIGN PANYANGGA;14CECAK
14LAYAR;14WIGNYAN;09LETTER A;16I KAWI;17;17I;16U;16PA CEREK;16NGA LELET;25 RASWADI;16E;16AI;16O
16KA;18 SASAK;19MURDA;16GA;18 MURDA;16NGA;16CA;18 MURDA;16JA;16NYA MURDA;16JA MAHAPRANA;16NYA
16TTA;19 MAHAPRANA;16DDA;19 MAHAPRANA;16NA MURDA;16TA;18 MURDA;16DA;18 MAHAPRANA;16NA;16PA
18 MURDA;16BA;18 MURDA;16MA;16YA;16RA;18 AGUNG;16LA;16WA;16SA MURDA;20AHAPRANA;18;16HA
09SIGN CECAK TELU;09VOWEL SIGN TARUNG;21OLONG;20WULU;24 MELIK;20SUKU;24 MENDUT;20TALING
20DIRGA MURE;20PEPET;09CONSONANT SIGN KERET;24PENGKAL;24CAKRA;09PANGKON;09LEFT RERENGGAN
09RIGHT RERENGGAN;09PADA ANDAP;14MADYA;14LUHUR;14WINDU;14PANGKAT;14LINGSA;15UNGSI;14ADEG;18 ADEG
14PISELEH;09TURNED PADA PISELEH;+A9CF;09PANGRANGKEP;09DIGIT ZERO;15ONE;15TWO;16HREE;15FOUR;16IVE
15SIX;16EVEN;15EIGHT;15NINE;+A9DE;09PADA TIRTA TUMETES;14ISEN-ISEN;00MYANMAR LETTER SHAN GHA;20CHA
20JHA;20NNA;20BHA;08SIGN SHAN SAW;08MODIFIER LETTER SHAN REDUPLICATION;08LETTER TAI LAING NYA;25FA
25GA;26HA;25JA;26HA;25DDA;27HA;25NNA;08TAI LAING DIGIT ZERO;24ONE;24TWO;25HREE;24FOUR;25IVE;24SIX
25EVEN;24EIGHT;24NINE;08LETTER TAI LAING LLA;25DA;26HA;25BA;26HA;+AA00;00CHAM LETTER A;12I;12U;12E
12AI;12O;12KA;13HA;12GA;13HA;12NGUE;14A;12CHA;14HA;12JA;13HA;12NHUE;14A;14JA;12TA;13HA;12DA;13HA
12NUE;13A;12DDA;12PA;13PA;13HA;12BA;13HA;12MUE;13A;12BBA;12YA;12RA;12LA;12VA;12SSA;13A;12HA
05VOWEL SIGN AA;16I;17I;16EI;16U;16OE;17;16AI;17U;16UE;05CONSONANT SIGN YA;20RA;20LA;20WA;+AA40
05LETTER FINAL K;18G;18NG;05CONSONANT SIGN FINAL NG;05LETTER FINAL CH;18T;18N;18P;18Y;18R;18L;18SS
05CONSONANT SIGN FINAL M;26H;+AA50;05DIGIT ZERO;11ONE;11TWO;12HREE;11FOUR;12IVE;11SIX;12EVEN
11EIGHT;11NINE;+AA5C;05PUNCTUATION SPIRAL;17DANDA;18OUBLE DANDA;17TRIPLE DANDA
00MYANMAR LETTER KHAMTI GA;22CA;23HA;22JA;23HA;22NYA;22TTA;24HA;22DDA;24HA;23HA;22NA;22SA;22HA
23HA;22FA;08MODIFIER LETTER KHAMTI REDUPLICATION;08LETTER KHAMTI XA;22ZA;22RA;09OGOGRAM KHAMTI OAY
24QN;24HM;08SYMBOL AITON EXCLAMATION;21ONE;21TWO;08LETTER AITON RA;08SIGN PAO KAREN TONE
13TAI LAING TONE-2;285;08LETTER SHWE PALAUNG CHA;28SHA;00TAI VIET LETTER LOW KO;16HIGH KO
16LOW KHO;16HIGH KHO;16LOW KHHO;16HIGH KHHO;16LOW GO;16HIGH GO;16LOW NGO;16HIGH NGO;16LOW CO
16HIGH CO;16LOW CHO;16HIGH CHO;16LOW SO;16HIGH SO;16LOW NYO;16HIGH NYO;16LOW DO;16HIGH DO;16LOW TO
16HIGH TO;16LOW THO;16HIGH THO;16LOW NO;16HIGH NO;16LOW BO;16HIGH BO;16LOW PO;16HIGH PO;16LOW PHO
16HIGH PHO;16LOW FO;16HIGH FO;16LOW MO;16HIGH MO;16LOW YO;16HIGH YO;16LOW RO;16HIGH RO;16LOW LO
16HIGH LO;16LOW VO;16HIGH VO;16LOW HO;16HIGH HO;16LOW O;16HIGH O;09MAI KANG;09VOWEL AA;15I;15UE;16
15E;15O;09MAI KHIT;09VOWEL IA;15UEA;16A;15AUE;16Y;16N;16M;09TONE MAI EK;18NUENG;18THO;18SONG;+AADB
09SYMBOL KON;16NUENG;16SAM;16HO HOI;16KOI KOI;00MEETEI MAYEK LETTER E;20O;20CHA;20NYA;20TTA;22HA
20DDA;22HA;20NNA;20SHA;21SA;13VOWEL SIGN II;24UU;24AAI;25U;25AU;13CHEIKHAN;13AHANG KHUDAM;14NJI
13SYLLABLE REPETITION MARK;13WORD REPETITION MARK;13VOWEL SIGN VISARGA;14IRAMA;+AB01
00ETHIOPIC SYLLABLE TTHU;21I;21AA;21EE;22;21O;+AB09;18DDHU;21I;21AA;21EE;22;21O;+AB11;19ZU;20I
20AA;20EE;21;20O;+AB20;18CCHHA;22U;22I;22AA;22EE;23;22O;+AB28;18BBA;20U;20I;20AA;20EE;21;20O;+AB30
00LATIN SMALL LETTER BARRED ALPHA;19A REVERSED-SCHWA;19BLACKLETTER E;20ARRED E;19E WITH FLOURISH
19LENIS F;19SCRIPT G WITH CROSSED-TAIL;19L WITH INVERTED LAZY S;26DOUBLE MIDDLE TILDE
26MIDDLE RING;19M WITH CROSSED-TAIL;19N WITH CROSSED-TAIL;19ENG WITH CROSSED-TAIL;19BLACKLETTER O
32 WITH STROKE;19OPEN O WITH STROKE;19INVERTED OE;19TURNED OE WITH STROKE;34HORIZONTAL STROKE
27 OPEN-O;34 WITH STROKE;19STIRRUP R;06LETTER SMALL CAPITAL R WITH RIGHT LEG
06SMALL LETTER R WITHOUT HANDLE;19DOUBLE R;19R WITH CROSSED-TAIL;19DOUBLE R WITH CROSSED-TAIL
19SCRIPT R;27 WITH RING;19BASELINE ESH;19U WITH SHORT RIGHT LEG;21BAR WITH SHORT RIGHT LEG;20I
19TURNED UI;19U WITH LEFT HOOK;19CHI;22 WITH LOW RIGHT RING;32LEFT SERIF;19X WITH LOW RIGHT RING
28NG LEFT LEG;39 AND LOW RIGHT RING;40WITH SERIF;19Y WITH SHORT RIGHT LEG
00MODIFIER BREVE WITH INVERTED BREVE;09LETTER SMALL HENG;22L WITH INVERTED LAZY S;29MIDDLE TILDE
22U WITH LEFT HOOK;00LATIN SMALL LETTER SAKHA YAT;19IOTIFIED E;19OPEN OE;19UO;19INVERTED ALPHA
00GREEK LETTER SMALL CAPITAL OMEGA;00LATIN SMALL LETTER DZ DIGRAPH WITH RETROFLEX HOOK
19TS DIGRAPH WITH RETROFLEX HOOK;20URNED R WITH MIDDLE TILDE;00MODIFIER LETTER SMALL TURNED W
16LEFT TACK;16RIGHT TACK;+AB70;00CHEROKEE SMALL LETTER A;22E;22I;22O;22U;22V;22GA;22KA;22GE;23I
23O;23U;23V;22HA;23E;23I;23O;23U;23V;22LA;23E;23I;23O;23U;23V;22MA;23E;23I;23O;23U;22NA;22HNA
22NAH;23E;23I;23O;23U;23V;22QUA;24E;24I;24O;24U;24V;22SA;23;23E;23I;23O;23U;23V;22DA;22TA;22DE
22TE;22DI;22TI;22DO;23U;23V;23LA;22TLA;24E;24I;24O;24U;24V;23SA;24E;24I;24O;24U;24V;22WA;23E;23I
23O;23U;23V;22YA;00MEETEI MAYEK LETTER KOK;20SAM;20LAI;20MIT;20PA;20NA;20CHIL;20TIL;20KHOU;20NGOU
20THOU;20WAI;20YANG;20HUK;20UN;20I;20PHAM;20ATIYA;20GOK;20JHAM;20RAI;20BA;20JIL;20DIL;20GHOU
20DHOU;20BHAM;20KOK LONSUM;20LAI LONSUM;20MIT LONSUM;20PA LONSUM;20NA LONSUM;20TIL LONSUM
20NGOU LONSUM;20I LONSUM;13VOWEL SIGN ONAP;24INAP;24ANAP;24YENAP;24SOUNAP;24UNAP;24CHEINAP;24NUNG
13CHEIKHEI;13LUM IYEK;13APUN IYEK;+ABF0;13DIGIT ZERO;19ONE;19TWO;20HREE;19FOUR;20IVE;19SIX;20EVEN
19EIGHT;19NINE;+D7B0;00HANGUL JUNGSEONG O-YEO;19O-I;17YO-A;21E;20EO;17U-YEO;19I-I;17YU-AE;20O
17EU-A;20EO;21;20O;17I-YA-O;21E;20EO;21;19O-I;19YO;20U;19I;17ARAEA-A;23E;+D7CB
08ONGSEONG NIEUN-RIEUL;23CHIEUCH;17SSANGTIKEUT;28-PIEUP;17TIKEUT-PIEUP;24SIOS;28-KIYEOK;24CIEUC
25HIEUCH;24THIEUTH;17RIEUL-SSANGKIYEOK;23KIYEOK-HIEUH;17SSANGRIEUL-KHIEUKH;17RIEUL-MIEUM-HIEUH
23PIEUP-TIKEUT;29PHIEUPH;23YESIEUNG;25ORINHIEUH-HIEUH;17KAPYEOUNRIEUL;17MIEUM-NIEUN;23SSANGNIEUN
17SSANGMIEUM;17MIEUM-PIEUP-SIOS;23CIEUC;17PIEUP-TIKEUT;23RIEUL-PHIEUPH;23MIEUM;17SSANGPIEUP
17PIEUP-SIOS-TIKEUT;23CIEUC;24HIEUCH;17SIOS-MIEUM;22KAPYEOUNPIEUP;18SANGSIOS-KIYEOK;27TIKEUT
18IOS-PANSIOS;22CIEUC;23HIEUCH;22THIEUTH;22HIEUH;17PANSIOS-PIEUP;25KAPYEOUNPIEUP;17YESIEUNG-MIEUM
26HIEUH;17CIEUC-PIEUP;23SSANGPIEUP;17SSANGCIEUC;17PHIEUPH-SIOS;25THIEUTH;+F900
00CJK COMPATIBILITY IDEOGRAPH-F900;311;312;313;314;315;316;317;318;319;31A;31B;31C;31D;31E;31F
3010;311;312;313;314;315;316;317;318;319;31A;31B;31C;31D;31E;31F;3020;311;312;313;314;315;316;317
318;319;31A;31B;31C;31D;31E;31F;3030;311;312;313;314;315;316;317;318;319;31A;31B;31C;31D;31E;31F
3040;311;312;313;314;315;316;317;318;319;31A;31B;31C;31D;31E;31F;3050;311;312;313;314;315;316;317
318;319;31A;31B;31C;31D;31E;31F;3060;311;312;313;314;315;316;317;318;319;31A;31B;31C;31D;31E;31F
3070;311;312;313;314;315;316;317;318;319;31A;31B;31C;31D;31E;31F;3080;311;312;313;314;315;316;317
318;319;31A;31B;31C;31D;31E;31F;3090;311;312;313;314;315;316;317;318;319;31A;31B;31C;31D;31E;31F
30A0;311;312;313;314;315;316;317;318;319;31A;31B;31C;31D;31E;31F;30B0;311;312;313;314;315;316;317
318;319;31A;31B;31C;31D;31E;31F;30C0;311;312;313;314;315;316;317;318;319;31A;31B;31C;31D;31E;31F
30D0;311;312;313;314;315;316;317;318;319;31A;31B;31C;31D;31E;31F;30E0;311;312;313;314;315;316;317
318;319;31A;31B;31C;31D;31E;31F;30F0;311;312;313;314;315;316;317;318;319;31A;31B;31C;31D;31E;31F
29A00;311;312;313;314;315;316;317;318;319;31A;31B;31C;31D;31E;31F;3010;311;312;313;314;315;316;317
318;319;31A;31B;31C;31D;31E;31F;3020;311;312;313;314;315;316;317;318;319;31A;31B;31C;31D;31E;31F
3030;311;312;313;314;315;316;317;318;319;31A;31B;31C;31D;31E;31F;3040;311;312;313;314;315;316;317
318;319;31A;31B;31C;31D;31E;31F;3050;311;312;313;314;315;316;317;318;319;31A;31B;31C;31D;31E;31F
3060;311;312;313;314;315;316;317;318;319;31A;31B;31C;31D;+FA70;3070;311;312;313;314;315;316;317
318;319;31A;31B;31C;31D;31E;31F;3080;311;312;313;314;315;316;317;318;319;31A;31B;31C;31D;31E;31F
3090;311;312;313;314;315;316;317;318;319;31A;31B;31C;31D;31E;31F;30A0;311;312;313;314;315;316;317
318;319;31A;31B;31C;31D;31E;31F;30B0;311;312;313;314;315;316;317;318;319;31A;31B;31C;31D;31E;31F
30C0;311;312;313;314;315;316;317;318;319;31A;31B;31C;31D;31E;31F;30D0;311;312;313;314;315;316;317
318;319;+FB00;00LATIN SMALL LIGATURE FF;22I;22L;22FI;23L;21LONG S T;21ST;+FB13
00ARMENIAN SMALL LIGATURE MEN NOW;28ECH;28INI;24VEW NOW;24MEN XEH;+FB1D
00HEBREW LETTER YOD WITH HIRIQ;07POINT JUDEO-SPANISH VARIKA;07LIGATURE YIDDISH YOD YOD PATAH
08ETTER ALTERNATIVE AYIN;14WIDE ALEF;19DALET;19HE;19KAF;19LAMED;19FINAL MEM;19RESH;19TAV
14ALTERNATIVE PLUS SIGN;14SHIN WITH SHIN DOT;25IN DOT;24DAGESH AND SHIN DOT;36IN DOT
14ALEF WITH PATAH;24QAMATS;24MAPIQ;14BET WITH DAGESH;14GIMEL WITH DAGESH;14DALET WITH DAGESH
14HE WITH MAPIQ;14VAV WITH DAGESH;14ZAYIN WITH DAGESH;+FB38;14TET WITH DAGESH;14YOD WITH DAGESH
14FINAL KAF WITH DAGESH;14KAF WITH DAGESH;14LAMED WITH DAGESH;+FB3E;14MEM WITH DAGESH;+FB40
14NUN WITH DAGESH;14SAMEKH WITH DAGESH;+FB43;14FINAL PE WITH DAGESH;14PE WITH DAGESH;+FB46
14TSADI WITH DAGESH;14QOF WITH DAGESH;14RESH WITH DAGESH;14SHIN WITH DAGESH;14TAV WITH DAGESH
14VAV WITH HOLAM;14BET WITH RAFE;14KAF WITH RAFE;14PE WITH RAFE;08IGATURE ALEF LAMED
00ARABIC LETTER ALEF WASLA ISOLATED FORM;25FINAL FORM;14BEEH ISOLATED FORM;19FINAL FORM
19INITIAL FORM;19MEDIAL FORM;14PEH ISOLATED FORM;18FINAL FORM;18INITIAL FORM;18MEDIAL FORM
14BEHEH ISOLATED FORM;20FINAL FORM;20INITIAL FORM;20MEDIAL FORM;14TTEHEH ISOLATED FORM
21FINAL FORM;21INITIAL FORM;21MEDIAL FORM;15EHEH ISOLATED FORM;20FINAL FORM;20INITIAL FORM
20MEDIAL FORM;15TEH ISOLATED FORM;19FINAL FORM;19INITIAL FORM;19MEDIAL FORM;14VEH ISOLATED FORM
18FINAL FORM;18INITIAL FORM;18MEDIAL FORM;14PEHEH ISOLATED FORM;20FINAL FORM;20INITIAL FORM
20MEDIAL FORM;14DYEH ISOLATED FORM;19FINAL FORM;19INITIAL FORM;19MEDIAL FORM;14NYEH ISOLATED FORM
19FINAL FORM;19INITIAL FORM;19MEDIAL FORM;14TCHEH ISOLATED FORM;20FINAL FORM;20INITIAL FORM
20MEDIAL FORM;19EH ISOLATED FORM;22FINAL FORM;22INITIAL FORM;22MEDIAL FORM;14DDAHAL ISOLATED FORM
21FINAL FORM;15AHAL ISOLATED FORM;20FINAL FORM;15UL ISOLATED FORM;18FINAL FORM;15DAL ISOLATED FORM
19FINAL FORM;14JEH ISOLATED FORM;18FINAL FORM;14RREH ISOLATED FORM;19FINAL FORM
14KEHEH ISOLATED FORM;20FINAL FORM;20INITIAL FORM;20MEDIAL FORM;14GAF ISOLATED FORM;18FINAL FORM
18INITIAL FORM;18MEDIAL FORM;15UEH ISOLATED FORM;19FINAL FORM;19INITIAL FORM;19MEDIAL FORM
14NGOEH ISOLATED FORM;20FINAL FORM;20INITIAL FORM;20MEDIAL FORM;15OON GHUNNA ISOLATED FORM
26FINAL FORM;14RNOON ISOLATED FORM;20FINAL FORM;20INITIAL FORM;20MEDIAL FORM
14HEH WITH YEH ABOVE ISOLATED FORM;33FINAL FORM;18GOAL ISOLATED FORM;23FINAL FORM;23INITIAL FORM
23MEDIAL FORM;18DOACHASHMEE ISOLATED FORM;30FINAL FORM;30INITIAL FORM;30MEDIAL FORM
14YEH BARREE ISOLATED FORM;25FINAL FORM;25WITH HAMZA ABOVE ISOLATED FORM;42FINAL FORM
07SYMBOL DOT ABOVE;18BELOW;14TWO DOTS ABOVE;23BELOW;15HREE DOTS ABOVE;25BELOW
25POINTING DOWNWARDS ABOVE;44BELOW;14FOUR DOTS ABOVE;24BELOW;14DOUBLE VERTICAL BAR BELOW
14TWO DOTS VERTICALLY ABOVE;34BELOW;14RING;14SMALL TAH ABOVE;24BELOW;14WASLA ABOVE;+FBD3
07LETTER NG ISOLATED FORM;17FINAL FORM;17INITIAL FORM;17MEDIAL FORM;14U ISOLATED FORM;16FINAL FORM
14OE ISOLATED FORM;17FINAL FORM;14YU ISOLATED FORM;17FINAL FORM;14U WITH HAMZA ABOVE ISOLATED FORM
14VE ISOLATED FORM;17FINAL FORM;14KIRGHIZ OE ISOLATED FORM;25FINAL FORM;22YU ISOLATED FORM
25FINAL FORM;14E ISOLATED FORM;16FINAL FORM;16INITIAL FORM;16MEDIAL FORM
14UIGHUR KAZAKH KIRGHIZ ALEF MAKSURA INITIAL FORM;49MEDIAL FORM
08IGATURE YEH WITH HAMZA ABOVE WITH ALEF ISOLATED FORM;47FINAL FORM;43E ISOLATED FORM;45FINAL FORM
42WAW ISOLATED FORM;46FINAL FORM;42U ISOLATED FORM;44FINAL FORM;42OE ISOLATED FORM;45FINAL FORM
42YU ISOLATED FORM;45FINAL FORM;42E ISOLATED FORM;44FINAL FORM;44INITIAL FORM
16UIGHUR KIRGHIZ YEH WITH HAMZA ABOVE WITH ALEF MAKSURA ISOLATED FORM;70FINAL FORM;70INITIAL FORM
08ETTER FARSI YEH ISOLATED FORM;24FINAL FORM;24INITIAL FORM;24MEDIAL FORM
08IGATURE YEH WITH HAMZA ABOVE WITH JEEM ISOLATED FORM;42HAH ISOLATED FORM;42MEEM ISOLATED FORM
42ALEF MAKSURA ISOLATED FORM;42YEH ISOLATED FORM;16BEH WITH JEEM ISOLATED FORM;25HAH ISOLATED FORM
25KHAH ISOLATED FORM;25MEEM ISOLATED FORM;25ALEF MAKSURA ISOLATED FORM;25YEH ISOLATED FORM
16TEH WITH JEEM ISOLATED FORM;25HAH ISOLATED FORM;25KHAH ISOLATED FORM;25MEEM ISOLATED FORM
25ALEF MAKSURA ISOLATED FORM;25YEH ISOLATED FORM;17HEH WITH JEEM ISOLATED FORM
26MEEM ISOLATED FORM;26ALEF MAKSURA ISOLATED FORM;26YEH ISOLATED FORM
16JEEM WITH HAH ISOLATED FORM;26MEEM ISOLATED FORM;16HAH WITH JEEM ISOLATED FORM
25MEEM ISOLATED FORM;16KHAH WITH JEEM ISOLATED FORM;26HAH ISOLATED FORM;26MEEM ISOLATED FORM
16SEEN WITH JEEM ISOLATED FORM;26HAH ISOLATED FORM;26KHAH ISOLATED FORM;26MEEM ISOLATED FORM
17AD WITH HAH ISOLATED FORM;25MEEM ISOLATED FORM;16DAD WITH JEEM ISOLATED FORM;25HAH ISOLATED FORM
25KHAH ISOLATED FORM;25MEEM ISOLATED FORM;16TAH WITH HAH ISOLATED FORM;25MEEM ISOLATED FORM
16ZAH WITH MEEM ISOLATED FORM;16AIN WITH JEEM ISOLATED FORM;25MEEM ISOLATED FORM
16GHAIN WITH JEEM ISOLATED FORM;27MEEM ISOLATED FORM;16FEH WITH JEEM ISOLATED FORM
25HAH ISOLATED FORM;25KHAH ISOLATED FORM;25MEEM ISOLATED FORM;25ALEF MAKSURA ISOLATED FORM
25YEH ISOLATED FORM;16QAF WITH HAH ISOLATED FORM;25MEEM ISOLATED FORM;25ALEF MAKSURA ISOLATED FORM
25YEH ISOLATED FORM;16KAF WITH ALEF ISOLATED FORM;25JEEM ISOLATED FORM;25HAH ISOLATED FORM
25KHAH ISOLATED FORM;25LAM ISOLATED FORM;25MEEM ISOLATED FORM;25ALEF MAKSURA ISOLATED FORM
25YEH ISOLATED FORM;16LAM WITH JEEM ISOLATED FORM;25HAH ISOLATED FORM;25KHAH ISOLATED FORM
25MEEM ISOLATED FORM;25ALEF MAKSURA ISOLATED FORM;25YEH ISOLATED FORM
16MEEM WITH JEEM ISOLATED FORM;26HAH ISOLATED FORM;26KHAH ISOLATED FORM;26MEEM ISOLATED FORM
26ALEF MAKSURA ISOLATED FORM;26YEH ISOLATED FORM;16NOON WITH JEEM ISOLATED FORM
26HAH ISOLATED FORM;26KHAH ISOLATED FORM;26MEEM ISOLATED FORM;26ALEF MAKSURA ISOLATED FORM
26YEH ISOLATED FORM;16HEH WITH JEEM ISOLATED FORM;25MEEM ISOLATED FORM
25ALEF MAKSURA ISOLATED FORM;25YEH ISOLATED FORM;16YEH WITH JEEM ISOLATED FORM;25HAH ISOLATED FORM
25KHAH ISOLATED FORM;25MEEM ISOLATED FORM;25ALEF MAKSURA ISOLATED FORM;25YEH ISOLATED FORM
16THAL WITH SUPERSCRIPT ALEF ISOLATED FORM;16REH WITH SUPERSCRIPT ALEF ISOLATED FORM
16ALEF MAKSURA WITH SUPERSCRIPT ALEF ISOLATED FORM;16SHADDA WITH DAMMATAN ISOLATED FORM
28KASRATAN ISOLATED FORM;28FATHA ISOLATED FORM;28DAMMA ISOLATED FORM;28KASRA ISOLATED FORM
28SUPERSCRIPT ALEF ISOLATED FORM;16YEH WITH HAMZA ABOVE WITH REH FINAL FORM;42ZAIN FINAL FORM
42MEEM FINAL FORM;42NOON FINAL FORM;42ALEF MAKSURA FINAL FORM;42YEH FINAL FORM
16BEH WITH REH FINAL FORM;25ZAIN FINAL FORM;25MEEM FINAL FORM;25NOON FINAL FORM
25ALEF MAKSURA FINAL FORM;25YEH FINAL FORM;16TEH WITH REH FINAL FORM;25ZAIN FINAL FORM
25MEEM FINAL FORM;25NOON FINAL FORM;25ALEF MAKSURA FINAL FORM;25YEH FINAL FORM
17HEH WITH REH FINAL FORM;26ZAIN FINAL FORM;26MEEM FINAL FORM;26NOON FINAL FORM
26ALEF MAKSURA FINAL FORM;26YEH FINAL FORM;16FEH WITH ALEF MAKSURA FINAL FORM;25YEH FINAL FORM
16QAF WITH ALEF MAKSURA FINAL FORM;25YEH FINAL FORM;16KAF WITH ALEF FINAL FORM;25LAM FINAL FORM
25MEEM FINAL FORM;25ALEF MAKSURA FINAL FORM;25YEH FINAL FORM;16LAM WITH MEEM FINAL FORM
25ALEF MAKSURA FINAL FORM;25YEH FINAL FORM;16MEEM WITH ALEF FINAL FORM;26MEEM FINAL FORM
16NOON WITH REH FINAL FORM;26ZAIN FINAL FORM;26MEEM FINAL FORM;26NOON FINAL FORM
26ALEF MAKSURA FINAL FORM;26YEH FINAL FORM;16ALEF MAKSURA WITH SUPERSCRIPT ALEF FINAL FORM
16YEH WITH REH FINAL FORM;25ZAIN FINAL FORM;25MEEM FINAL FORM;25NOON FINAL FORM
25ALEF MAKSURA FINAL FORM;25YEH FINAL FORM;25HAMZA ABOVE WITH JEEM INITIAL FORM;42HAH INITIAL FORM
42KHAH INITIAL FORM;42MEEM INITIAL FORM;42HEH INITIAL FORM;16BEH WITH JEEM INITIAL FORM
25HAH INITIAL FORM;25KHAH INITIAL FORM;25MEEM INITIAL FORM;25HEH INITIAL FORM
16TEH WITH JEEM INITIAL FORM;25HAH INITIAL FORM;25KHAH INITIAL FORM;25MEEM INITIAL FORM
25HEH INITIAL FORM;17HEH WITH MEEM INITIAL FORM;16JEEM WITH HAH INITIAL FORM;26MEEM INITIAL FORM
16HAH WITH JEEM INITIAL FORM;25MEEM INITIAL FORM;16KHAH WITH JEEM INITIAL FORM;26MEEM INITIAL FORM
16SEEN WITH JEEM INITIAL FORM;26HAH INITIAL FORM;26KHAH INITIAL FORM;26MEEM INITIAL FORM
17AD WITH HAH INITIAL FORM;25KHAH INITIAL FORM;25MEEM INITIAL FORM;16DAD WITH JEEM INITIAL FORM
25HAH INITIAL FORM;25KHAH INITIAL FORM;25MEEM INITIAL FORM;16TAH WITH HAH INITIAL FORM
16ZAH WITH MEEM INITIAL FORM;16AIN WITH JEEM INITIAL FORM;25MEEM INITIAL FORM
16GHAIN WITH JEEM INITIAL FORM;27MEEM INITIAL FORM;16FEH WITH JEEM INITIAL FORM;25HAH INITIAL FORM
25KHAH INITIAL FORM;25MEEM INITIAL FORM;16QAF WITH HAH INITIAL FORM;25MEEM INITIAL FORM
16KAF WITH JEEM INITIAL FORM;25HAH INITIAL FORM;25KHAH INITIAL FORM;25LAM INITIAL FORM
25MEEM INITIAL FORM;16LAM WITH JEEM INITIAL FORM;25HAH INITIAL FORM;25KHAH INITIAL FORM
25MEEM INITIAL FORM;25HEH INITIAL FORM;16MEEM WITH JEEM INITIAL FORM;26HAH INITIAL FORM
26KHAH INITIAL FORM;26MEEM INITIAL FORM;16NOON WITH JEEM INITIAL FORM;26HAH INITIAL FORM
26KHAH INITIAL FORM;26MEEM INITIAL FORM;26HEH INITIAL FORM;16HEH WITH JEEM INITIAL FORM
25MEEM INITIAL FORM;25SUPERSCRIPT ALEF INITIAL FORM;16YEH WITH JEEM INITIAL FORM
25HAH INITIAL FORM;25KHAH INITIAL FORM;25MEEM INITIAL FORM;25HEH INITIAL FORM
26AMZA ABOVE WITH MEEM MEDIAL FORM;42HEH MEDIAL FORM;16BEH WITH MEEM MEDIAL FORM;25HEH MEDIAL FORM
16TEH WITH MEEM MEDIAL FORM;25HEH MEDIAL FORM;17HEH WITH MEEM MEDIAL FORM;26HEH MEDIAL FORM
16SEEN WITH MEEM MEDIAL FORM;26HEH MEDIAL FORM;17HEEN WITH MEEM MEDIAL FORM;27HEH MEDIAL FORM
16KAF WITH LAM MEDIAL FORM;25MEEM MEDIAL FORM;16LAM WITH MEEM MEDIAL FORM
16NOON WITH MEEM MEDIAL FORM;26HEH MEDIAL FORM;16YEH WITH MEEM MEDIAL FORM;25HEH MEDIAL FORM
16SHADDA WITH FATHA MEDIAL FORM;28DAMMA MEDIAL FORM;28KASRA MEDIAL FORM
16TAH WITH ALEF MAKSURA ISOLATED FORM;25YEH ISOLATED FORM;16AIN WITH ALEF MAKSURA ISOLATED FORM
25YEH ISOLATED FORM;16GHAIN WITH ALEF MAKSURA ISOLATED FORM;27YEH ISOLATED FORM
16SEEN WITH ALEF MAKSURA ISOLATED FORM;26YEH ISOLATED FORM;17HEEN WITH ALEF MAKSURA ISOLATED FORM
27YEH ISOLATED FORM;16HAH WITH ALEF MAKSURA ISOLATED FORM;25YEH ISOLATED FORM
16JEEM WITH ALEF MAKSURA ISOLATED FORM;26YEH ISOLATED FORM;16KHAH WITH ALEF MAKSURA ISOLATED FORM
26YEH ISOLATED FORM;16SAD WITH ALEF MAKSURA ISOLATED FORM;25YEH ISOLATED FORM
16DAD WITH ALEF MAKSURA ISOLATED FORM;25YEH ISOLATED FORM;16SHEEN WITH JEEM ISOLATED FORM
27HAH ISOLATED FORM;27KHAH ISOLATED FORM;27MEEM ISOLATED FORM;27REH ISOLATED FORM
17EEN WITH REH ISOLATED FORM;17AD WITH REH ISOLATED FORM;16DAD WITH REH ISOLATED FORM
16TAH WITH ALEF MAKSURA FINAL FORM;25YEH FINAL FORM;16AIN WITH ALEF MAKSURA FINAL FORM
25YEH FINAL FORM;16GHAIN WITH ALEF MAKSURA FINAL FORM;27YEH FINAL FORM
16SEEN WITH ALEF MAKSURA FINAL FORM;26YEH FINAL FORM;17HEEN WITH ALEF MAKSURA FINAL FORM
27YEH FINAL FORM;16HAH WITH ALEF MAKSURA FINAL FORM;25YEH FINAL FORM
16JEEM WITH ALEF MAKSURA FINAL FORM;26YEH FINAL FORM;16KHAH WITH ALEF MAKSURA FINAL FORM
26YEH FINAL FORM;16SAD WITH ALEF MAKSURA FINAL FORM;25YEH FINAL FORM
16DAD WITH ALEF MAKSURA FINAL FORM;25YEH FINAL FORM;16SHEEN WITH JEEM FINAL FORM;27HAH FINAL FORM
27KHAH FINAL FORM;27MEEM FINAL FORM;27REH FINAL FORM;17EEN WITH REH FINAL FORM
17AD WITH REH FINAL FORM;16DAD WITH REH FINAL FORM;16SHEEN WITH JEEM INITIAL FORM
27HAH INITIAL FORM;27KHAH INITIAL FORM;27MEEM INITIAL FORM;17EEN WITH HEH INITIAL FORM
17HEEN WITH HEH INITIAL FORM;16TAH WITH MEEM INITIAL FORM;16SEEN WITH JEEM MEDIAL FORM
26HAH MEDIAL FORM;26KHAH MEDIAL FORM;17HEEN WITH JEEM MEDIAL FORM;27HAH MEDIAL FORM
27KHAH MEDIAL FORM;16TAH WITH MEEM MEDIAL FORM;16ZAH WITH MEEM MEDIAL FORM
16ALEF WITH FATHATAN FINAL FORM;35ISOLATED FORM;00ORNATE LEFT PARENTHESIS;07RIGHT PARENTHESIS
00ARABIC LIGATURE RAHIMAHU ALLAAH;18DI ALLAAHU ANH;32AA;32UM;34AA;33NNA
16SALLALLAAHU ALAYHI WA-AALIH;16ALAYHI AS-SALAAM;22M AS-SALAAM;23AA AS-SALAAM
22 AS-SALAATU WAS-SALAAM;16QUDDISA SIRRAH;16SALLALLAHU ALAYHI WAAALIHEE WA-SALLAM
16ALAYHAA AS-SALAAM;16TABAARAKA WA-TAAALAA;16RAHIMAHUM ALLAAH
16TEH WITH JEEM WITH MEEM INITIAL FORM;25HAH WITH JEEM FINAL FORM;39INITIAL FORM
34MEEM INITIAL FORM;25KHAH WITH MEEM INITIAL FORM;25MEEM WITH JEEM INITIAL FORM;35HAH INITIAL FORM
35KHAH INITIAL FORM;16JEEM WITH MEEM WITH HAH FINAL FORM;40INITIAL FORM
16HAH WITH MEEM WITH YEH FINAL FORM;35ALEF MAKSURA FINAL FORM
16SEEN WITH HAH WITH JEEM INITIAL FORM;26JEEM WITH HAH INITIAL FORM;36ALEF MAKSURA FINAL FORM
26MEEM WITH HAH FINAL FORM;40INITIAL FORM;36JEEM INITIAL FORM;36MEEM FINAL FORM;41INITIAL FORM
17AD WITH HAH WITH HAH FINAL FORM;38INITIAL FORM;25MEEM WITH MEEM FINAL FORM
17HEEN WITH HAH WITH MEEM FINAL FORM;41INITIAL FORM;27JEEM WITH YEH FINAL FORM
27MEEM WITH KHAH FINAL FORM;42INITIAL FORM;37MEEM FINAL FORM;42INITIAL FORM
16DAD WITH HAH WITH ALEF MAKSURA FINAL FORM;25KHAH WITH MEEM FINAL FORM;40INITIAL FORM
16TAH WITH MEEM WITH HAH FINAL FORM;39INITIAL FORM;35MEEM INITIAL FORM;35YEH FINAL FORM
16AIN WITH JEEM WITH MEEM FINAL FORM;25MEEM WITH MEEM FINAL FORM;40INITIAL FORM
35ALEF MAKSURA FINAL FORM;16GHAIN WITH MEEM WITH MEEM FINAL FORM;37YEH FINAL FORM
37ALEF MAKSURA FINAL FORM;16FEH WITH KHAH WITH MEEM FINAL FORM;40INITIAL FORM
16QAF WITH MEEM WITH HAH FINAL FORM;35MEEM FINAL FORM;16LAM WITH HAH WITH MEEM FINAL FORM
34YEH FINAL FORM;34ALEF MAKSURA FINAL FORM;25JEEM WITH JEEM INITIAL FORM;40FINAL FORM
25KHAH WITH MEEM FINAL FORM;40INITIAL FORM;25MEEM WITH HAH FINAL FORM;39INITIAL FORM
16MEEM WITH HAH WITH JEEM INITIAL FORM;35MEEM INITIAL FORM;35YEH FINAL FORM
26JEEM WITH HAH INITIAL FORM;36MEEM INITIAL FORM;26KHAH WITH JEEM INITIAL FORM;36MEEM INITIAL FORM
+FD92;26JEEM WITH KHAH INITIAL FORM;16HEH WITH MEEM WITH JEEM INITIAL FORM;35MEEM INITIAL FORM
16NOON WITH HAH WITH MEEM INITIAL FORM;35ALEF MAKSURA FINAL FORM;26JEEM WITH MEEM FINAL FORM
41INITIAL FORM;36ALEF MAKSURA FINAL FORM;26MEEM WITH YEH FINAL FORM;36ALEF MAKSURA FINAL FORM
16YEH WITH MEEM WITH MEEM FINAL FORM;40INITIAL FORM;16BEH WITH KHAH WITH YEH FINAL FORM
16TEH WITH JEEM WITH YEH FINAL FORM;35ALEF MAKSURA FINAL FORM;25KHAH WITH YEH FINAL FORM
35ALEF MAKSURA FINAL FORM;25MEEM WITH YEH FINAL FORM;35ALEF MAKSURA FINAL FORM
16JEEM WITH MEEM WITH YEH FINAL FORM;26HAH WITH ALEF MAKSURA FINAL FORM
26MEEM WITH ALEF MAKSURA FINAL FORM;16SEEN WITH KHAH WITH ALEF MAKSURA FINAL FORM
17AD WITH HAH WITH YEH FINAL FORM;17HEEN WITH HAH WITH YEH FINAL FORM
16DAD WITH HAH WITH YEH FINAL FORM;16LAM WITH JEEM WITH YEH FINAL FORM;25MEEM WITH YEH FINAL FORM
16YEH WITH HAH WITH YEH FINAL FORM;25JEEM WITH YEH FINAL FORM;25MEEM WITH YEH FINAL FORM
16MEEM WITH MEEM WITH YEH FINAL FORM;16QAF WITH MEEM WITH YEH FINAL FORM
16NOON WITH HAH WITH YEH FINAL FORM;16QAF WITH MEEM WITH HAH INITIAL FORM
16LAM WITH HAH WITH MEEM INITIAL FORM;16AIN WITH MEEM WITH YEH FINAL FORM
16KAF WITH MEEM WITH YEH FINAL FORM;16NOON WITH JEEM WITH HAH INITIAL FORM
16MEEM WITH KHAH WITH YEH FINAL FORM;16LAM WITH JEEM WITH MEEM INITIAL FORM
16KAF WITH MEEM WITH MEEM FINAL FORM;16LAM WITH JEEM WITH MEEM FINAL FORM
16NOON WITH JEEM WITH HAH FINAL FORM;16JEEM WITH HAH WITH YEH FINAL FORM
16HAH WITH JEEM WITH YEH FINAL FORM;16MEEM WITH JEEM WITH YEH FINAL FORM
16FEH WITH MEEM WITH YEH FINAL FORM;16BEH WITH HAH WITH YEH FINAL FORM
16KAF WITH MEEM WITH MEEM INITIAL FORM;16AIN WITH JEEM WITH MEEM INITIAL FORM
16SAD WITH MEEM WITH MEEM INITIAL FORM;17EEN WITH KHAH WITH YEH FINAL FORM
16NOON WITH JEEM WITH YEH FINAL FORM;+FDCF;16SALAAMUHU ALAYNAA;+FDF0
19LA USED AS KORANIC STOP SIGN ISOLATED FORM;16QALA USED AS KORANIC STOP SIGN ISOLATED FORM
16ALLAH ISOLATED FORM;17KBAR ISOLATED FORM;16MOHAMMAD ISOLATED FORM;16SALAM ISOLATED FORM
16RASOUL ISOLATED FORM;16ALAYHE ISOLATED FORM;16WASALLAM ISOLATED FORM;16SALLA ISOLATED FORM
21LLAHOU ALAYHE WASALLAM;16JALLAJALALOUHOU;00RIAL SIGN
00ARABIC LIGATURE BISMILLAH AR-RAHMAN AR-RAHEEM;16SUBHAANAHU WA TAAALAA;16AZZA WA JALL
00VARIATION SELECTOR-1;192;193;194;195;196;197;198;199;1910;201;202;203;204;205;206
00PRESENTATION FORM FOR VERTICAL COMMA;31IDEOGRAPHIC COMMA;43FULL STOP;31COLON;31SEMICOLON
31EXCLAMATION MARK;31QUESTION MARK;31LEFT WHITE LENTICULAR BRACKET
31RIGHT WHITE LENTICULAR BRAKCET;31HORIZONTAL ELLIPSIS;+FE20;00COMBINING LIGATURE LEFT HALF
19RIGHT HALF;10DOUBLE TILDE LEFT HALF;23RIGHT HALF;10MACRON LEFT HALF;17RIGHT HALF
10CONJOINING MACRON;10LIGATURE LEFT HALF BELOW;19RIGHT HALF BELOW;10TILDE LEFT HALF BELOW
16RIGHT HALF BELOW;10MACRON LEFT HALF BELOW;17RIGHT HALF BELOW;10CONJOINING MACRON BELOW
11YRILLIC TITLO LEFT HALF;25RIGHT HALF;00PRESENTATION FORM FOR VERTICAL TWO DOT LEADER;31EM DASH
32N DASH;31LOW LINE;31WAVY LOW LINE;31LEFT PARENTHESIS;31RIGHT PARENTHESIS;31LEFT CURLY BRACKET
31RIGHT CURLY BRACKET;31LEFT TORTOISE SHELL BRACKET;31RIGHT TORTOISE SHELL BRACKET
31LEFT BLACK LENTICULAR BRACKET;31RIGHT BLACK LENTICULAR BRACKET;31LEFT DOUBLE ANGLE BRACKET
31RIGHT DOUBLE ANGLE BRACKET;31LEFT ANGLE BRACKET;31RIGHT ANGLE BRACKET;31LEFT CORNER BRACKET
31RIGHT CORNER BRACKET;31LEFT WHITE CORNER BRACKET;31RIGHT WHITE CORNER BRACKET;00SESAME DOT
00WHITE SESAME DOT;00PRESENTATION FORM FOR VERTICAL LEFT SQUARE BRACKET;31RIGHT SQUARE BRACKET
00DASHED OVERLINE;00CENTRELINE OVERLINE;00WAVY OVERLINE;00DOUBLE WAVY OVERLINE;01ASHED LOW LINE
00CENTRELINE LOW LINE;00WAVY LOW LINE;00SMALL COMMA;06IDEOGRAPHIC COMMA;06FULL STOP;+FE54
06SEMICOLON;06COLON;06QUESTION MARK;06EXCLAMATION MARK;07M DASH;06LEFT PARENTHESIS
06RIGHT PARENTHESIS;06LEFT CURLY BRACKET;06RIGHT CURLY BRACKET;06LEFT TORTOISE SHELL BRACKET
06RIGHT TORTOISE SHELL BRACKET;06NUMBER SIGN;06AMPERSAND;07STERISK;06PLUS SIGN;06HYPHEN-MINUS
06LESS-THAN SIGN;06GREATER-THAN SIGN;06EQUALS SIGN;+FE68;06REVERSE SOLIDUS;06DOLLAR SIGN
06PERCENT SIGN;06COMMERCIAL AT;+FE70;00ARABIC FATHATAN ISOLATED FORM;07TATWEEL WITH FATHATAN ABOVE
07DAMMATAN ISOLATED FORM;07TAIL FRAGMENT;07KASRATAN ISOLATED FORM;+FE76;07FATHA ISOLATED FORM
13MEDIAL FORM;07DAMMA ISOLATED FORM;13MEDIAL FORM;07KASRA ISOLATED FORM;13MEDIAL FORM
07SHADDA ISOLATED FORM;14MEDIAL FORM;08UKUN ISOLATED FORM;13MEDIAL FORM
07LETTER HAMZA ISOLATED FORM;14ALEF WITH MADDA ABOVE ISOLATED FORM;36FINAL FORM
24HAMZA ABOVE ISOLATED FORM;36FINAL FORM;14WAW WITH HAMZA ABOVE ISOLATED FORM;35FINAL FORM
14ALEF WITH HAMZA BELOW ISOLATED FORM;36FINAL FORM;14YEH WITH HAMZA ABOVE ISOLATED FORM
35FINAL FORM;35INITIAL FORM;35MEDIAL FORM;14ALEF ISOLATED FORM;19FINAL FORM;14BEH ISOLATED FORM
18FINAL FORM;18INITIAL FORM;18MEDIAL FORM;14TEH MARBUTA ISOLATED FORM;26FINAL FORM;18ISOLATED FORM
18FINAL FORM;18INITIAL FORM;18MEDIAL FORM;15HEH ISOLATED FORM;19FINAL FORM;19INITIAL FORM
19MEDIAL FORM;14JEEM ISOLATED FORM;19FINAL FORM;19INITIAL FORM;19MEDIAL FORM;14HAH ISOLATED FORM
18FINAL FORM;18INITIAL FORM;18MEDIAL FORM;14KHAH ISOLATED FORM;19FINAL FORM;19INITIAL FORM
19MEDIAL FORM;14DAL ISOLATED FORM;18FINAL FORM;14THAL ISOLATED FORM;19FINAL FORM
14REH ISOLATED FORM;18FINAL FORM;14ZAIN ISOLATED FORM;19FINAL FORM;14SEEN ISOLATED FORM
19FINAL FORM;19INITIAL FORM;19MEDIAL FORM;15HEEN ISOLATED FORM;20FINAL FORM;20INITIAL FORM
20MEDIAL FORM;15AD ISOLATED FORM;18FINAL FORM;18INITIAL FORM;18MEDIAL FORM;14DAD ISOLATED FORM
18FINAL FORM;18INITIAL FORM;18MEDIAL FORM;14TAH ISOLATED FORM;18FINAL FORM;18INITIAL FORM
18MEDIAL FORM;14ZAH ISOLATED FORM;18FINAL FORM;18INITIAL FORM;18MEDIAL FORM;14AIN ISOLATED FORM
18FINAL FORM;18INITIAL FORM;18MEDIAL FORM;14GHAIN ISOLATED FORM;20FINAL FORM;20INITIAL FORM
20MEDIAL FORM;14FEH ISOLATED FORM;18FINAL FORM;18INITIAL FORM;18MEDIAL FORM;14QAF ISOLATED FORM
18FINAL FORM;18INITIAL FORM;18MEDIAL FORM;14KAF ISOLATED FORM;18FINAL FORM;18INITIAL FORM
18MEDIAL FORM;14LAM ISOLATED FORM;18FINAL FORM;18INITIAL FORM;18MEDIAL FORM;14MEEM ISOLATED FORM
19FINAL FORM;19INITIAL FORM;19MEDIAL FORM;14NOON ISOLATED FORM;19FINAL FORM;19INITIAL FORM
19MEDIAL FORM;14HEH ISOLATED FORM;18FINAL FORM;18INITIAL FORM;18MEDIAL FORM;14WAW ISOLATED FORM
18FINAL FORM;14ALEF MAKSURA ISOLATED FORM;27FINAL FORM;14YEH ISOLATED FORM;18FINAL FORM
18INITIAL FORM;18MEDIAL FORM;08IGATURE LAM WITH ALEF WITH MADDA ABOVE ISOLATED FORM;47FINAL FORM
35HAMZA ABOVE ISOLATED FORM;47FINAL FORM;41BELOW ISOLATED FORM;47FINAL FORM;30ISOLATED FORM
30FINAL FORM;+FEFF;00ZERO WIDTH NO-BREAK SPACE;+FF01;00FULLWIDTH EXCLAMATION MARK;10QUOTATION MARK
10NUMBER SIGN;10DOLLAR SIGN;10PERCENT SIGN;10AMPERSAND;11POSTROPHE;10LEFT PARENTHESIS
10RIGHT PARENTHESIS;10ASTERISK;10PLUS SIGN;10COMMA;10HYPHEN-MINUS;10FULL STOP;10SOLIDUS
10DIGIT ZERO;16ONE;16TWO;17HREE;16FOUR;17IVE;16SIX;17EVEN;16EIGHT;16NINE;10COLON;10SEMICOLON
10LESS-THAN SIGN;10EQUALS SIGN;10GREATER-THAN SIGN;10QUESTION MARK;10COMMERCIAL AT
10LATIN CAPITAL LETTER A;31B;31C;31D;31E;31F;31G;31H;31I;31J;31K;31L;31M;31N;31O;31P;31Q;31R;31S
31T;31U;31V;31W;31X;31Y;31Z;11EFT SQUARE BRACKET;10REVERSE SOLIDUS;11IGHT SQUARE BRACKET
10CIRCUMFLEX ACCENT;10LOW LINE;10GRAVE ACCENT;10LATIN SMALL LETTER A;29B;29C;29D;29E;29F;29G;29H
29I;29J;29K;29L;29M;29N;29O;29P;29Q;29R;29S;29T;29U;29V;29W;29X;29Y;29Z;11EFT CURLY BRACKET
10VERTICAL LINE;10RIGHT CURLY BRACKET;10TILDE;10LEFT WHITE PARENTHESIS;10RIGHT WHITE PARENTHESIS
00HALFWIDTH IDEOGRAPHIC FULL STOP;10LEFT CORNER BRACKET;10RIGHT CORNER BRACKET;10IDEOGRAPHIC COMMA
10KATAKANA MIDDLE DOT;19LETTER WO;26SMALL A;32I;32U;32E;32O;32YA;33U;33O;32TU
18-HIRAGANA PROLONGED SOUND MARK;18 LETTER A;26I;26U;26E;26O;26KA;27I;27U;27E;27O;26SA;27I;27U;27E
27O;26TA;27I;27U;27E;27O;26NA;27I;27U;27E;27O;26HA;27I;27U;27E;27O;26MA;27I;27U;27E;27O;26YA;27U
27O;26RA;27I;27U;27E;27O;26WA;26N;19VOICED SOUND MARK;19SEMI-VOICED SOUND MARK;10HANGUL FILLER
17LETTER KIYEOK;24SSANGKIYEOK;24KIYEOK-SIOS;24NIEUN;29-CIEUC;30HIEUH;24TIKEUT;24SSANGTIKEUT
24RIEUL;29-KIYEOK;30MIEUM;30PIEUP;30SIOS;30THIEUTH;30PHIEUPH;30HIEUH;24MIEUM;24PIEUP;24SSANGPIEUP
24PIEUP-SIOS;24SIOS;25SANGSIOS;24IEUNG;24CIEUC;24SSANGCIEUC;24CHIEUCH;24KHIEUKH;24THIEUTH
24PHIEUPH;24HIEUH;+FFC2;24A;25E;24YA;26E;24EO;25;+FFCA;24YEO;26;24O;24WA;26E;24OE;+FFD2;24YO;24U
24WEO;26;25I;24YU;+FFDA;24EU;24YI;24I;+FFE0;00FULLWIDTH CENT SIGN;10POUND SIGN;10NOT SIGN;10MACRON
10BROKEN BAR;10YEN SIGN;10WON SIGN;+FFE8;00HALFWIDTH FORMS LIGHT VERTICAL;10LEFTWARDS ARROW
10UPWARDS ARROW;10RIGHTWARDS ARROW;10DOWNWARDS ARROW;10BLACK SQUARE;10WHITE CIRCLE;+FFF9
00INTERLINEAR ANNOTATION ANCHOR;23SEPARATOR;23TERMINATOR;00OBJECT REPLACEMENT CHARACTER
00REPLACEMENT CHARACTER;+10000;00LINEAR B SYLLABLE B008 A;2038 E;2028 I;2061 O;2010 U;2001 DA
2045 DE;2007 DI;2014 DO;2051 DU;217 JA;2046 JE;+1000D;2036 JO;2065 JU;2077 KA;2044 KE;2067 KI
2070 KO;2081 KU;210 MA;2013 ME;2073 MI;2015 MO;2023 MU;2006 NA;2024 NE;2030 NI;2052 NO;215 NU
2003 PA;2072 PE;2039 PI;2011 PO;2050 PU;2016 QA;2078 QE;2021 QI;2032 QO;+10028;2060 RA;2027 RE
2053 RI;2002 RO;2026 RU;2031 SA;2009 SE;2041 SI;2012 SO;2058 SU;219 TA;2004 TE;2037 TI;2005 TO
2069 TU;2054 WA;2075 WE;2040 WI;212 WO;+1003C;2017 ZA;2074 ZE;+1003F;2020 ZO;215 A2;2043 A3
2085 AU;2071 DWE;2090 DWO;2048 NWA;2029 PU2;2062 PTE;2076 RA2;2033 RA3;2068 RO2;216 TA2;2087 TWE
2091 TWO;+10050;11MBOL B018;199;1822;1834;1847;199;1856;1863;194;1879;1882;193;196;199;+10080
09IDEOGRAM B100 MAN;212 WOMAN;214 DEER;215 EQUID;22F MARE;22M STALLION;216F EWE;22M RAM
217F SHE-GOAT;22M HE-GOAT;218F SOW;22M BOAR;219F COW;22M BULL;2020 WHEAT;211 BARLEY;212 OLIVE
213 SPICE;215 CYPERUS;09MONOGRAM B127 KAPO;218 KANAKO;09IDEOGRAM B130 OIL;211 WINE;212
09MONOGRAM B133 AREPA;215 MERI;09IDEOGRAM B140 BRONZE;211 GOLD;212;215 WOOL;216;2050;211 HORN;212
213;214;09MONOGRAM B156 TURO2;09IDEOGRAM B157;218;219 CLOTH;2060;211;212 GARMENT;213 ARMOUR;214
215;216;217;218;219;2070;211;212;213 MONTH;214;216 TREE;217;218;219;2080;211;212;213;214;215;219
2090;211 HELMET;19220 FOOTSTOOL;215 BATHTUB;2030 SPEAR;211 ARROW;212;213 SWORD;214;216
2040 WHEELED CHARIOT;211 CHARIOT;212 CHARIOT FRAME;213 WHEEL;215;216;09MONOGRAM B247 DIPTE
09IDEOGRAM B248;219;2051;212;213;214 DART;215;216;217;218;219;18VESSEL B155;26200;281;282;283;284
285;286;287;288;289;2710;281;282;283;284;285;286;287;288;289;2721;282;286;287;288;289;2750;26305
+10100;00AEGEAN WORD SEPARATOR LINE;22DOT;07CHECK MARK;+10107;07NUMBER ONE;14TWO;15HREE;14FOUR
15IVE;14SIX;15EVEN;14EIGHT;14NINE;14TEN;15WENTY;15HIRTY;14FORTY;15IFTY;14SIXTY;15EVENTY;14EIGHTY
14NINETY;14ONE HUNDRED;14TWO HUNDRED;15HREE HUNDRED;14FOUR HUNDRED;15IVE HUNDRED;14SIX HUNDRED
15EVEN HUNDRED;14EIGHT HUNDRED;14NINE HUNDRED;14ONE THOUSAND;14TWO THOUSAND;15HREE THOUSAND
14FOUR THOUSAND;15IVE THOUSAND;14SIX THOUSAND;15EVEN THOUSAND;14EIGHT THOUSAND;14NINE THOUSAND
14TEN THOUSAND;15WENTY THOUSAND;15HIRTY THOUSAND;14FORTY THOUSAND;15IFTY THOUSAND;14SIXTY THOUSAND
15EVENTY THOUSAND;14EIGHTY THOUSAND;14NINETY THOUSAND;+10137;07WEIGHT BASE UNIT;14FIRST SUBUNIT
14SECOND SUBUNIT;14THIRD SUBUNIT;14FOURTH SUBUNIT;07DRY MEASURE FIRST SUBUNIT
07LIQUID MEASURE FIRST SUBUNIT;07MEASURE SECOND SUBUNIT;15THIRD SUBUNIT
00GREEK ACROPHONIC ATTIC ONE QUARTER;27HALF;27DRACHMA;23FIVE;25FTY;25VE HUNDRED;28THOUSAND
25FTY THOUSAND;25VE TALENTS;23TEN TALENTS;23FIFTY TALENTS;23ONE HUNDRED TALENTS
23FIVE HUNDRED TALENTS;23ONE THOUSAND TALENTS;23FIVE THOUSAND TALENTS;28STATERS;23TEN STATERS
23FIFTY STATERS;23ONE HUNDRED STATERS;23FIVE HUNDRED STATERS;23ONE THOUSAND STATERS
23TEN THOUSAND STATERS;23FIFTY THOUSAND STATERS;23TEN MNAS;17HERAEUM ONE PLETHRON;17THESPIAN ONE
17HERMIONIAN ONE;17EPIDAUREAN TWO;17THESPIAN TWO;17CYRENAIC TWO DRACHMAS;17EPIDAUREAN TWO DRACHMAS
17TROEZENIAN FIVE;28TEN;31 ALTERNATE FORM;17HERMIONIAN TEN;17MESSENIAN TEN;17THESPIAN TEN;27HIRTY
18ROEZENIAN FIFTY;33 ALTERNATE FORM;17HERMIONIAN FIFTY;17THESPIAN FIFTY;26ONE HUNDRED
26THREE HUNDRED;17EPIDAUREAN FIVE HUNDRED;17TROEZENIAN FIVE HUNDRED;18HESPIAN FIVE HUNDRED
17CARYSTIAN FIVE HUNDRED;17NAXIAN FIVE HUNDRED;17THESPIAN ONE THOUSAND;26FIVE THOUSAND
17DELPHIC FIVE MNAS;17STRATIAN FIFTY MNAS;06ONE HALF SIGN;19 ALTERNATE FORM;06TWO THIRDS SIGN
07HREE QUARTERS SIGN;06YEAR SIGN;06TALENT SIGN;06DRACHMA SIGN;06OBOL SIGN;06TWO OBOLS SIGN
07HREE OBOLS SIGN;06FOUR OBOLS SIGN;07IVE OBOLS SIGN;06METRETES SIGN;06KYATHOS BASE SIGN
06LITRA SIGN;06OUNKIA SIGN;06XESTES SIGN;06ARTABE SIGN;08OURA SIGN;06GRAMMA SIGN
06TRYBLION BASE SIGN;06ZERO SIGN;06ONE QUARTER SIGN;06SINUSOID SIGN;06INDICTION SIGN
00NOMISMA SIGN;+10190;00ROMAN SEXTANS SIGN;06UNCIA SIGN;06SEMUNCIA SIGN;08XTULA SIGN
06DIMIDIA SEXTULA SIGN;06SILIQUA SIGN;06DENARIUS SIGN;06QUINARIUS SIGN;06SESTERTIUS SIGN
06DUPONDIUS SIGN;06AS SIGN;06CENTURIAL SIGN;00ASCIA SYMBOL;+101A0;00GREEK SYMBOL TAU RHO"

end EachSubject.Text.CharacterName

/-!
# Names of characters from U+13A4 on

The names are written as `CharacterName` reads them.
-/

namespace EachSubject.Text.CharacterName

/-- The names of the characters from U+13A4 on. -/
def blockTwo : String := "+13A4;00CHEROKEE LETTER U;16V;16GA;16KA;16GE;17I;17O;17U;17V;16HA;17E;17I;17O;17U;17V;16LA;17E;17I
17O;17U;17V;16MA;17E;17I;17O;17U;16NA;16HNA;16NAH;17E;17I;17O;17U;17V;16QUA;18E;18I;18O;18U;18V
16SA;17;17E;17I;17O;17U;17V;16DA;16TA;16DE;16TE;16DI;16TI;16DO;17U;17V;17LA;16TLA;18E;18I;18O;18U
18V;17SA;18E;18I;18O;18U;18V;16WA;17E;17I;17O;17U;17V;16YA;17E;17I;17O;17U;17V;16MV;+13F8
09SMALL LETTER YE;23I;23O;23U;23V;22MV;+1400;01ANADIAN SYLLABICS HYPHEN;19E;19AAI;19I;20I;19O;20O
19Y-CREE OO;19CARRIER EE;27I;19A;20A;19WE;21ST-CREE WE;20I;20EST-CREE WI;20II;20EST-CREE WII;20O
20EST-CREE WO;20OO;20EST-CREE WOO;19NASKAPI WOO;19WA;20EST-CREE WA;20AA;20EST-CREE WAA
19NASKAPI WAA;19AI;19Y-CREE W;19GLOTTAL STOP;19FINAL ACUTE;25GRAVE;25BOTTOM HALF RING
25TOP HALF RING;25RIGHT HALF RING;27NG;25DOUBLE ACUTE;32SHORT VERTICAL STROKES;25MIDDLE DOT
25SHORT HORIZONTAL STROKE;25PLUS;25DOWN TACK;19EN;19IN;19ON;19AN;19PE;20AAI;20I;21I;20O;21O
19Y-CREE POO;19CARRIER HEE;28I;19PA;21A;20WE;19WEST-CREE PWE;19PWI;19WEST-CREE PWI;19PWII
19WEST-CREE PWII;19PWO;19WEST-CREE PWO;19PWOO;19WEST-CREE PWOO;19PWA;19WEST-CREE PWA;19PWAA
19WEST-CREE PWAA;19Y-CREE PWAA;19P;19WEST-CREE P;19CARRIER H;19TE;20AAI;20I;21I;20O;21O
19Y-CREE TOO;19CARRIER DEE;28I;19TA;21A;20WE;19WEST-CREE TWE;19TWI;19WEST-CREE TWI;19TWII
19WEST-CREE TWII;19TWO;19WEST-CREE TWO;19TWOO;19WEST-CREE TWOO;19TWA;19WEST-CREE TWA;19TWAA
19WEST-CREE TWAA;19NASKAPI TWAA;19T;20TE;21I;21O;21A;19KE;20AAI;20I;21I;20O;21O;19Y-CREE KOO;19KA
21A;20WE;19WEST-CREE KWE;19KWI;19WEST-CREE KWI;19KWII;19WEST-CREE KWII;19KWO;19WEST-CREE KWO
19KWOO;19WEST-CREE KWOO;19KWA;19WEST-CREE KWA;19KWAA;19WEST-CREE KWAA;19NASKAPI KWAA;19K;20W
19SOUTH-SLAVEY KEH;33IH;33OH;33AH;19CE;20AAI;20I;21I;20O;21O;19Y-CREE COO;19CA;21A;20WE
19WEST-CREE CWE;19CWI;19WEST-CREE CWI;19CWII;19WEST-CREE CWII;19CWO;19WEST-CREE CWO;19CWOO
19WEST-CREE CWOO;19CWA;19WEST-CREE CWA;19CWAA;19WEST-CREE CWAA;19NASKAPI CWAA;19C;19SAYISI TH;19ME
20AAI;20I;21I;20O;21O;19Y-CREE MOO;19MA;21A;20WE;19WEST-CREE MWE;19MWI;19WEST-CREE MWI;19MWII
19WEST-CREE MWII;19MWO;19WEST-CREE MWO;19MWOO;19WEST-CREE MWOO;19MWA;19WEST-CREE MWA;19MWAA
19WEST-CREE MWAA;19NASKAPI MWAA;19M;19WEST-CREE M;19MH;19ATHAPASCAN M;19SAYISI M;19NE;20AAI;20I
21I;20O;21O;19Y-CREE NOO;19NA;21A;20WE;19WEST-CREE NWE;19NWA;19WEST-CREE NWA;19NWAA
19WEST-CREE NWAA;19NASKAPI NWAA;20;19CARRIER NG;19NH;19LE;20AAI;20I;21I;20O;21O;19Y-CREE LOO;19LA
21A;20WE;19WEST-CREE LWE;19LWI;19WEST-CREE LWI;19LWII;19WEST-CREE LWII;19LWO;19WEST-CREE LWO
19LWOO;19WEST-CREE LWOO;19LWA;19WEST-CREE LWA;19LWAA;19WEST-CREE LWAA;19L;19WEST-CREE L;19MEDIAL L
19SE;20AAI;20I;21I;20O;21O;19Y-CREE SOO;19SA;21A;20WE;19WEST-CREE SWE;19SWI;19WEST-CREE SWI;19SWII
19WEST-CREE SWII;19SWO;19WEST-CREE SWO;19SWOO;19WEST-CREE SWOO;19SWA;19WEST-CREE SWA;19SWAA
19WEST-CREE SWAA;19NASKAPI SWAA;19S;19ATHAPASCAN S;19SW;19BLACKFOOT S;19MOOSE-CREE SK
19NASKAPI SKW;28-W;28PWA;28TWA;28KWA;28CWA;19SHE;21I;22I;21O;22O;21A;22A;21WE;19WEST-CREE SHWE
19SHWI;19WEST-CREE SHWI;19SHWII;19WEST-CREE SHWII;19SHWO;19WEST-CREE SHWO;19SHWOO
19WEST-CREE SHWOO;19SHWA;19WEST-CREE SHWA;19SHWAA;19WEST-CREE SHWAA;19SH;19YE;20AAI;20I;21I;20O
21O;20-CREE YOO;20A;21A;20WE;19WEST-CREE YWE;19YWI;19WEST-CREE YWI;19YWII;19WEST-CREE YWII;19YWO
19WEST-CREE YWO;19YWOO;19WEST-CREE YWOO;19YWA;19WEST-CREE YWA;19YWAA;19WEST-CREE YWAA
19NASKAPI YWAA;19Y;19BIBLE-CREE Y;19WEST-CREE Y;19SAYISI YI;19RE;20-CREE RE;19WEST-CREE LE;19RAAI
20I;21I;20O;21O;19WEST-CREE LO;19RA;21A;19WEST-CREE LA;19RWAA;19WEST-CREE RWAA;19R;19WEST-CREE R
19MEDIAL R;19FE;20AAI;20I;21I;20O;21O;20A;21A;20WAA;19WEST-CREE FWAA;19F;19THE;19N-CREE THE;19THI
19N-CREE THI;19THII;19N-CREE THII;19THO;22O;21A;22A;21WAA;19WEST-CREE THWAA;19TH;20THE;22I;22O;22A
22;20YE;21I;21O;21A;19NUNAVIK HE;28I;29I;28O;29O;28A;29A;28;24UT H;19HK;19QAAI;20I;21I;20O;21O;20A
21A;20;19TLHE;22I;22O;22A;19WEST-CREE RE;30I;30O;30A;19NGAAI;21I;22I;21O;22O;21A;22A;21;20NG
19SAYISI SHE;28I;28O;28A;19WOODS-CREE THE;32I;32O;32A;32;19LHI;22I;21O;22O;21A;22A;21
19TH-CREE THE;29I;30I;29O;30O;29A;30A;29;19AIVILIK B;19BLACKFOOT E;29I;29O;29A;29WE;30I;30O;30A
29NE;30I;30O;30A;29KE;30I;30O;30A;19SAYISI HE;27I;27O;27A;19CARRIER GHU;29O;29E;30E;29I;29A;27RU
28O;28E;29E;28I;28A;27WU;28O;28E;29E;28I;28A;27HWU;29O;29E;30E;29I;29A;27THU;29O;29E;30E;29I;29A
28TU;29O;29E;30E;29I;29A;27PU;28O;28E;29E;28I;28A;28;27GU;28O;28E;29E;28I;28A;27KHU;29O;29E;30E
29I;29A;28KU;29O;29E;30E;29I;29A;29;27NU;28O;28E;29E;28I;28A;27MU;28O;28E;29E;28I;28A;27YU;28O;28E
29E;28I;28A;27JU;19SAYISI JU;19CARRIER JO;28E;29E;28I;19SAYISI JI;19CARRIER JA;28JU;29O;29E;30E
29I;29A;27LU;28O;28E;29E;28I;28A;27DLU;29O;29E;30E;29I;29A;27LHU;29O;29E;30E;29I;29A;27TLHU;30O
30E;31E;30I;30A;29U;29O;29E;30E;29I;29A;27ZU;28O;28E;29E;28I;28A;28;27INITIAL Z;27DZU;29O;29E;30E
29I;29A;27SU;28O;28E;29E;28I;28A;28HU;29O;29E;30E;29I;29A;29;27TSU;29O;29E;30E;29I;29A;27CHU;29O
29E;30E;29I;29A;27TTSU;30O;30E;31E;30I;30A;20HI SIGN;19FULL STOP;19QAI;19NGAI;20NGI;23I;22O;23O
22A;23A;19WOODS-CREE THWEE;33I;34I;33O;34O;33A;34A;30FINAL TH;19BLACKFOOT W;00OGHAM SPACE MARK
06LETTER BEITH;13LUIS;13FEARN;13SAIL;13NION;13UATH;13DAIR;13TINNE;13COLL;14EIRT;13MUIN;13GORT
13NGEADAL;13STRAIF;13RUIS;13AILM;13ONN;13UR;13EADHADH;13IODHADH;13EABHADH;13OR;13UILLEANN;13IFIN
13EAMHANCHOLL;13PEITH;06FEATHER MARK;06REVERSED FEATHER MARK;+16A0;00RUNIC LETTER FEHU FEOH FE F
13V;13URUZ UR U;13YR;14;13W;13THURISAZ THURS THORN;13ETH;13ANSUZ A;13OS O;13AC A;14ESC
13LONG-BRANCH-OSS O;13SHORT-TWIG-OSS O;13O;14E;14N;13RAIDO RAD REID R;13KAUNA;13CEN;13KAUN K;13G
13ENG;13GEBO GYFU G;14AR;13WUNJO WYNN W;13HAGLAZ H;15EGL H;13LONG-BRANCH-HAGALL H
13SHORT-TWIG-HAGALL H;13NAUDIZ NYD NAUD N;13SHORT-TWIG-NAUD N;13DOTTED-N;13ISAZ IS ISS I;13E
13JERAN J;13GER;13LONG-BRANCH-AR AE;13SHORT-TWIG-AR A;13IWAZ EOH;13PERTHO PEORTH P;13ALGIZ EOLHX
13SOWILO S;14IGEL LONG-BRANCH-SOL S;14HORT-TWIG-SOL S;13C;13Z;13TIWAZ TIR TYR T;13SHORT-TWIG-TYR T
13D;13BERKANAN BEORC BJARKAN B;13SHORT-TWIG-BJARKAN B;13DOTTED-P;13OPEN-P;13EHWAZ EH E
13MANNAZ MAN M;13LONG-BRANCH-MADR M;13SHORT-TWIG-MADR M;13LAUKAZ LAGU LOGR L;13DOTTED-L;13INGWAZ
16;13DAGAZ DAEG D;13OTHALAN ETHEL O;13EAR;13IOR;13CWEORTH;14ALC;14EALC;13STAN;13LONG-BRANCH-YR
13SHORT-TWIG-YR;13ICELANDIC-YR;13Q;13X;06SINGLE PUNCTUATION;06MULTIPLE PUNCTUATION
06CROSS PUNCTUATION;06ARLAUG SYMBOL;06TVIMADUR SYMBOL;06BELGTHOR SYMBOL;06LETTER K;13SH;13OO
13FRANKS CASKET OS;27IS;27EH;27AC;28ESC;+1700;00TAGALOG LETTER A;15I;15U;15KA;15GA;15NGA;15TA;15DA
15NA;15PA;15BA;15MA;15YA;15RA;15LA;15WA;15SA;15HA;08VOWEL SIGN I;19U;08SIGN VIRAMA;13PAMUDPOD
+171F;08LETTER ARCHAIC RA;00HANUNOO LETTER A;15I;15U;15KA;15GA;15NGA;15TA;15DA;15NA;15PA;15BA;15MA
15YA;15RA;15LA;15WA;15SA;15HA;08VOWEL SIGN I;19U;08SIGN PAMUDPOD;00PHILIPPINE SINGLE PUNCTUATION
11DOUBLE PUNCTUATION;+1740;00BUHID LETTER A;13I;13U;13KA;13GA;13NGA;13TA;13DA;13NA;13PA;13BA;13MA
13YA;13RA;13LA;13WA;13SA;13HA;06VOWEL SIGN I;17U;+1760;00TAGBANWA LETTER A;16I;16U;16KA;16GA;16NGA
16TA;16DA;16NA;16PA;16BA;16MA;16YA;+176E;16LA;16WA;16SA;+1772;09VOWEL SIGN I;20U;+1780
00KHMER LETTER KA;14HA;14O;14HO;13NGO;13CA;14HA;14O;14HO;13NYO;13DA;13TTHA;13DO;13TTHO;13NNO;13TA
14HA;14O;14HO;13NO;13BA;13PHA;14O;14HO;13MO;13YO;13RO;13LO;13VO;13SHA;14SO;14A;13HA;13LA;13QA
06INDEPENDENT VOWEL QAQ;26A;25I;26I;25U;26K;26U;27V;24RY;26Y;24LY;26Y;24QE;25AI;25OO TYPE ONE
33TWO;25AU;06VOWEL INHERENT AQ;22A;12SIGN AA;17I;18I;17Y;18Y;17U;18U;18A;17OE;17YA;17IE;17E;17AE
18I;17OO;17AU;06SIGN NIKAHIT;11REAHMUK;11YUUKALEAPINTU;11MUUSIKATOAN;11TRIISAP;11BANTOC;11ROBAT
11TOANDAKHIAT;11KAKABAT;11AHSDA;11SAMYOK SANNYA;11VIRIAM;11COENG;11BATHAMASAT;11KHAN;11BARIYOOSAN
11CAMNUC PII KUUH;11LEK TOO;11BEYYAL;11PHNAEK MUAN;11KOOMUUT;06CURRENCY SYMBOL RIEL
06SIGN AVAKRAHASANYA;12TTHACAN;+17E0;06DIGIT ZERO;12ONE;12TWO;13HREE;12FOUR;13IVE;12SIX;13EVEN
12EIGHT;12NINE;+17F0;06SYMBOL LEK ATTAK SON;23MUOY;23PII;23BEI;24UON;23PRAM;27-MUOY;28PII;28BEI
29UON;+1800;00MONGOLIAN BIRGA;10ELLIPSIS;10COMMA;10FULL STOP;10COLON;10FOUR DOTS
10TODO SOFT HYPHEN;10SIBE SYLLABLE BOUNDARY MARKER;10MANCHU COMMA;17FULL STOP;10NIRUGU
10FREE VARIATION SELECTOR ONE;34TWO;35HREE;10VOWEL SEPARATOR;10FREE VARIATION SELECTOR FOUR
10DIGIT ZERO;16ONE;16TWO;17HREE;16FOUR;17IVE;16SIX;17EVEN;16EIGHT;16NINE;+1820;10LETTER A;17E;17I
17O;17U;17OE;17UE;17EE;17NA;17ANG;17BA;17PA;17QA;17GA;17MA;17LA;17SA;18HA;17TA;17DA;17CHA;17JA
17YA;17RA;17WA;17FA;17KA;18HA;17TSA;17ZA;17HAA;17ZRA;17LHA;17ZHI;17CHI;17TODO LONG VOWEL SIGN;22E
22I;22O;22U;22OE;22UE;22ANG;22BA;22PA;22QA;22GA;22MA;22TA;22DA;22CHA;22JA;22TSA;22YA;22WA;22KA
22GAA;22HAA;22JIA;22NIA;22DZA;17SIBE E;22I;23Y;22UE;23;22ANG;22KA;22GA;22HA;22PA;22SHA;22TA;22DA
22JA;22FA;22GAA;22HAA;22TSA;22ZA;22RAA;22CHA;22ZHA;17MANCHU I;24KA;24RA;24FA;24ZHA
17CHA WITH TWO DOTS;+1880;17ALI GALI ANUSVARA ONE;26VISARGA ONE;26DAMARU;26UBADAMA
26INVERTED UBADAMA;26BALUDA;26THREE BALUDA;26A;26I;26KA;26NGA;26CA;26TTA;28HA;26DDA;26NNA;26TA
26DA;26PA;27HA;26SSA;26ZHA;27A;26AH;17TODO ALI GALI TA;31ZHA;17MANCHU ALI GALI GHA;33NGA;33CA
33JHA;33TTA;33DDHA;33TA;33DHA;33SSA;33CYA;33ZHA;34A;17ALI GALI HALF U;31YA;17MANCHU ALI GALI BHA
17ALI GALI DAGALGA;17MANCHU ALI GALI LHA;+18B0;00CANADIAN SYLLABICS OY;19AY;20AY;19WAY;19POY;20AY
20WOY;19TAY;19KAY;20WAY;19MAY;19NOY;20AY;19LAY;19SOY;20AY;20HOY;21AY;21WOY;19YOY;20AY;19RAY;19NWI
19OJIBWAY NWI;19NWII;19OJIBWAY NWII;19NWO;19OJIBWAY NWO;19NWOO;19OJIBWAY NWOO;19RWEE;21I;22I;21O
22O;21A;19OJIBWAY P;27T;27K;27C;27M;27N;27S;28H;19EASTERN W;19WESTERN W;19FINAL SMALL RING
25RAISED DOT;19R-CREE RWE;19WEST-CREE LOO;30AA;19THWE;22A;20THWE;22OO;22AA;20LHWE;22OO
19SAYISI SHWE;28OO;26HOO;19CARRIER GWU;27DENE GEE;27GAA;28WA;19SAYISI JUU;19CARRIER JWA
19BEAVER DENE L;31R;19CARRIER DENTAL S;+1900;00LIMBU VOWEL-CARRIER LETTER;06LETTER KA;14HA;13GA
14HA;13NGA;13CA;14HA;13JA;14HA;13YAN;13TA;14HA;13DA;14HA;13NA;13PA;14HA;13BA;14HA;13MA;13YA;13RA
13LA;13WA;13SHA;14SA;14A;13HA;13GYAN;13TRA;+1920;06VOWEL SIGN A;17I;17U;17EE;17AI;17OO;17AU;17E
17O;06SUBJOINED LETTER YA;23RA;23WA;+1930;07MALL LETTER KA;19NGA;19ANUSVARA;19TA;19NA;19PA;19MA
19RA;19LA;07IGN MUKPHRENG;11KEMPHRENG;11SA-I;+1940;11LOO;+1944;06EXCLAMATION MARK;06QUESTION MARK
06DIGIT ZERO;12ONE;12TWO;13HREE;12FOUR;13IVE;12SIX;13EVEN;12EIGHT;12NINE;00TAI LE LETTER KA;14XA
14NGA;14TSA;14SA;14YA;14TA;15HA;14LA;14PA;15HA;14MA;14FA;14VA;14HA;14QA;14KHA;14TSHA;14NA;14A;14I
14EE;15H;14U;14OO;15;14UE;14E;14AUE;15I;+1970;14TONE-2;193;194;195;196;+1980
00NEW TAI LUE LETTER HIGH QA;19LOW QA;19HIGH KA;24XA;24NGA;19LOW KA;23XA;23NGA;19HIGH TSA;24SA
24YA;19LOW TSA;23SA;23YA;19HIGH TA;25HA;24NA;19LOW TA;24HA;23NA;19HIGH PA;25HA;24MA;19LOW PA;24HA
23MA;19HIGH FA;24VA;24LA;19LOW FA;23VA;23LA;19HIGH HA;24DA;24BA;19LOW HA;23DA;23BA;19HIGH KVA
24XVA;19LOW KVA;23XVA;19HIGH SUA;19LOW SUA;+19B0;12VOWEL SIGN VOWEL SHORTENER;23AA;23II;23U;24U
23E;23AE;23O;24A;23UE;23AY;24AY;23UY;23OY;24AY;23UEY;23IY;12LETTER FINAL V;25NG;26;25M;25K;25D;25B
12TONE MARK-1;222;+19D0;12DIGIT ZERO;18ONE;18TWO;19HREE;18FOUR;19IVE;18SIX;19EVEN;18EIGHT;18NINE
12THAM DIGIT ONE;+19DE;12SIGN LAE;20V;00KHMER SYMBOL PATHAMASAT;13MUOY KOET;13PII KOET;13BEI KOET
14UON KOET;13PRAM KOET;17-MUOY KOET;18PII KOET;18BEI KOET;19UON KOET;13DAP KOET;16-MUOY KOET
17PII KOET;17BEI KOET;18UON KOET;17PRAM KOET;13TUTEYASAT;13MUOY ROC;13PII ROC;13BEI ROC;14UON ROC
13PRAM ROC;17-MUOY ROC;18PII ROC;18BEI ROC;19UON ROC;13DAP ROC;16-MUOY ROC;17PII ROC;17BEI ROC
18UON ROC;17PRAM ROC;00BUGINESE LETTER KA;16GA;16NGA;18KA;16PA;16BA;16MA;17PA;16TA;16DA;16NA;17RA
16CA;16JA;16NYA;18CA;16YA;16RA;16LA;16VA;16SA;16A;16HA;09VOWEL SIGN I;20U;20E;20O;20AE;+1A1E
09PALLAWA;09END OF SECTION;00TAI THAM LETTER HIGH KA;22HA;22XA;16LOW KA;21XA;21HA;16NGA;16HIGH CA
22HA;16LOW CA;20SA;20CHA;16NYA;16RATA;16HIGH RATHA;16DA;16LOW RATHA;16RANA;16HIGH TA;22HA;16LOW TA
21HA;16NA;16BA;16HIGH PA;22HA;21FA;16LOW PA;20FA;20PHA;16MA;16LOW YA;16HIGH YA;16RA;17UE;16LA;17UE
16WA;16HIGH SHA;22SA;22A;21HA;16LLA;16A;16LOW HA;16I;17I;16U;17U;16EE;16OO;16LAE;16GREAT SA
09CONSONANT SIGN MEDIAL RA;31LA;24LA TANG LAI;09SIGN MAI KANG LAI;09CONSONANT SIGN FINAL NGA
24LOW PA;24HIGH RATHA OR LOW PA;24MA;24BA;24SA;+1A60;09SIGN SAKOT;09VOWEL SIGN A;20MAI SAT;20AA
20TALL AA;20I;21I;20UE;21UE;21;21U;20O;21A BELOW;21Y;20E;20AE;20OO;20AI;20THAM AI;20OA ABOVE
09SIGN MAI KANG;14TONE-1;192;14KHUEN TONE-3;254;255;14RA HAAM;14MAI SAM;14KHUEN-LUE KARAN;+1A7F
09COMBINING CRYPTOGRAMMIC DOT;09HORA DIGIT ZERO;20ONE;20TWO;21HREE;20FOUR;21IVE;20SIX;21EVEN
20EIGHT;20NINE;+1A90;09THAM DIGIT ZERO;20ONE;20TWO;21HREE;20FOUR;21IVE;20SIX;21EVEN;20EIGHT;20NINE
+1AA0;09SIGN WIANG;19WAAK;14SAWAN;14KEOW;14HOY;14DOKMAI;14REVERSED ROTATED RANA;14MAI YAMOK;14KAAN
18KUU;14SATKAAN;21KUU;14HANG;14CAANG;+1AB0;00COMBINING DOUBLED CIRCUMFLEX ACCENT;11IAERESIS-RING
10INFINITY;10DOWNWARDS ARROW;10TRIPLE DOT;10X-X BELOW;10WIGGLY LINE BELOW;10OPEN MARK BELOW
10DOUBLE OPEN MARK BELOW;10LIGHT CENTRALIZATION STROKE BELOW;10STRONG CENTRALIZATION STROKE BELOW
10PARENTHESES ABOVE;10DOUBLE PARENTHESES ABOVE;10PARENTHESES BELOW;22OVERLAY
10LATIN SMALL LETTER W BELOW;29TURNED W BELOW;11EFT PARENTHESIS ABOVE LEFT
10RIGHT PARENTHESIS ABOVE RIGHT;10LEFT PARENTHESIS BELOW LEFT;10RIGHT PARENTHESIS BELOW RIGHT
10SQUARE BRACKETS ABOVE;10NUMBER SIGN ABOVE;10INVERTED DOUBLE ARCH ABOVE;10PLUS SIGN ABOVE
10DOUBLE PLUS SIGN ABOVE;27BELOW;10TRIPLE ACUTE ACCENT;10LATIN SMALL LETTER INSULAR G;37R;37T
+1B00;00BALINESE SIGN ULU RICEM;18CANDRA;14CECEK;14SURANG;14BISAH;09LETTER AKARA;21 TEDUNG;16IKARA
21 TEDUNG;16UKARA;21 TEDUNG;16RA REPA;23 TEDUNG;16LA LENGA;24 TEDUNG;16EKARA;16AIKARA;16OKARA
21 TEDUNG;16KA;18 MAHAPRANA;16GA;18 GORA;16NGA;16CA;18 LACA;16JA;18 JERA;16NYA;16TA LATIK
19MURDA MAHAPRANA;16DA MURDA ALPAPRANA;25MAHAPRANA;16NA RAMBAT;16TA;18 TAWA;16DA;18 MADU;16NA;16PA
18 KAPAL;16BA;18 KEMBANG;16MA;16YA;16RA;16LA;16WA;16SA SAGA;21PA;18;16HA;09SIGN REREKAN
09VOWEL SIGN TEDUNG;20ULU;23 SARI;20SUKU;24 ILUT;20RA REPA;27 TEDUNG;20LA LENGA;28 TEDUNG;20TALING
26 REPA;27TEDUNG;27REPA TEDUNG;20PEPET;25 TEDUNG;09ADEG ADEG;09LETTER KAF SASAK;17HOT SASAK
16TZIR SASAK;16EF SASAK;16VE SASAK;16ZAL SASAK;16ASYURA SASAK;17RCHAIC JNYA;+1B50;09DIGIT ZERO
15ONE;15TWO;16HREE;15FOUR;16IVE;15SIX;16EVEN;15EIGHT;15NINE;09PANTI;11MADA;09WINDU
09CARIK PAMUNGKAH;15SIKI;15PAREREN;09PAMENENG;09MUSICAL SYMBOL DONG;25ENG;25UNG;25ANG;28 SURANG
25ING;25AENG;25EUNG;25AING;26NG GEDE;24COMBINING TEGEH;34ENDEP;34KEMPUL;38LI;34JEGOGAN
34KEMPUL WITH JEGOGAN;38LI WITH JEGOGAN;34BENDE;34GONG;24RIGHT-HAND OPEN DUG;41AG;35CLOSED TUK
43AK;24LEFT-HAND OPEN PANG;40UNG;34CLOSED PLAK;43UK;34OPEN PING;09PANTI LANTANG;11MADA LANTANG
+1B80;00SUNDANESE SIGN PANYECEK;18GLAYAR;19WISAD;10LETTER A;17I;17U;17AE;17O;17E;18U;17KA;17QA
17GA;17NGA;17CA;17JA;17ZA;17NYA;17TA;17DA;17NA;17PA;17FA;17VA;17BA;17MA;17YA;17RA;17LA;17WA;17SA
17XA;17HA;10CONSONANT SIGN PAMINGKAL;27NYAKRA;29IKU;10VOWEL SIGN PANGHULU;24YUKU;24AELAENG;24OLONG
23MEPET;23NEULEUNG;10SIGN PAMAAEH;15VIRAMA;10CONSONANT SIGN PASANGAN MA;34WA;10LETTER KHA;17SYA
10DIGIT ZERO;16ONE;16TWO;17HREE;16FOUR;17IVE;16SIX;17EVEN;16EIGHT;16NINE;10AVAGRAHA;10LETTER REU
17LEU;17BHA;17FINAL K;23M;00BATAK LETTER A;13SIMALUNGUN A;13HA;13SIMALUNGUN HA;13MANDAILING HA
13BA;13KARO BA;13PA;13SIMALUNGUN PA;13NA;13MANDAILING NA;13WA;13SIMALUNGUN WA;13PAKPAK WA;13GA
13SIMALUNGUN GA;13JA;13DA;13RA;13SIMALUNGUN RA;13MA;13SIMALUNGUN MA;14OUTHERN TA;13NORTHERN TA
13SA;14IMALUNGUN SA;13MANDAILING SA;13YA;13SIMALUNGUN YA;13NGA;13LA;13SIMALUNGUN LA;13NYA;13CA
13NDA;13MBA;13I;13U;06SIGN TOMPI;06VOWEL SIGN E;17PAKPAK E;17EE;17I;17KARO I;17O;17KARO O;17U
18 FOR SIMALUNGUN SA;06CONSONANT SIGN NG;21H;06PANGOLAT;09ONGONAN;+1BFC;06SYMBOL BINDU NA METEK
19PINARBORAS;19JUDUL;19PANGOLAT;00LEPCHA LETTER KA;15LA;15HA;14GA;15LA;14NGA;14CA;15HA;14JA;14NYA
14TA;15HA;14DA;14NA;14PA;15LA;15HA;14FA;15LA;14BA;15LA;14MA;15LA;14TSA;16HA;14DZA;14YA;14RA;14LA
14HA;15LA;14VA;14SA;15HA;14WA;14A;07SUBJOINED LETTER YA;24RA;07VOWEL SIGN AA;18I;18O;19O;18U;19U
18E;07CONSONANT SIGN K;22M;22L;22N;22P;22R;22T;22NYIN-DO;22KANG;07SIGN RAN;12NUKTA;+1C3B
07PUNCTUATION TA-ROL;19NYET THYOOM TA-ROL;19CER-WA;19TSHOOK CER-WA;25;07DIGIT ZERO;13ONE;13TWO
14HREE;13FOUR;14IVE;13SIX;14EVEN;13EIGHT;13NINE;+1C4D;07LETTER TTA;16HA;14DDA
00OL CHIKI DIGIT ZERO;15ONE;15TWO;16HREE;15FOUR;16IVE;15SIX;16EVEN;15EIGHT;15NINE;09LETTER LA;16AT
17G;17NG;17L;16LAA;16AAK;18J;18M;18W;16LI;16IS;17H;17NY;17R;16LU;16UC;17D;17NN;17Y;16LE;16EP;17DD
17N;17RR;16LO;16OTT;17B;17V;17H;09MU TTUDDAG;09GAAHLAA TTUDDAAG;09MU-GAAHLAA TTUDDAAG;09RELAA
09PHAARKAA;09AHAD;09PUNCTUATION MUCAAD;21DOUBLE MUCAAD;00CYRILLIC SMALL LETTER ROUNDED VE
22LONG-LEGGED DE;22NARROW O;22WIDE ES;22TALL TE;23HREE-LEGGED TE;23ALL HARD SIGN;27YAT
22UNBLENDED UK;+1C90;00GEORGIAN MTAVRULI CAPITAL LETTER AN;33BAN;33GAN;33DON;33EN;33VIN;33ZEN
33TAN;33IN;33KAN;33LAS;33MAN;33NAR;33ON;33PAR;33ZHAR;33RAE;33SAN;33TAR;33UN;33PHAR;33KHAR;33GHAN
33QAR;33SHIN;33CHIN;34AN;33JIL;33CIL;34HAR;33XAN;33JHAN;33HAE;34E;34IE;33WE;33HAR;34OE;33FI;33YN
33ELIFI;33TURNED GAN;33AIN;+1CBD;34EN;33HARD SIGN;33LABIAL SIGN
00SUNDANESE PUNCTUATION BINDU SURYA;28PANGLONG;29URNAMA;28CAKRA;28LEU SATANGA;28KA SATANGA
28DA SATANGA;28BA SATANGA;+1CD0;00VEDIC TONE KARSHANA;11SHARA;11PRENKHA;06SIGN NIHSHVASA
11YAJURVEDIC MIDLINE SVARITA;06TONE YAJURVEDIC AGGRAVATED INDEPENDENT SVARITA
22INDEPENDENT SVARITA;22KATHAKA INDEPENDENT SVARITA;11CANDRA BELOW
11YAJURVEDIC KATHAKA INDEPENDENT SVARITA SCHROEDER;11DOUBLE SVARITA;11TRIPLE SVARITA
11KATHAKA ANUDATTA;11DOT BELOW;11TWO DOTS BELOW;12HREE DOTS BELOW
11RIGVEDIC KASHMIRI INDEPENDENT SVARITA;11ATHARVAVEDIC INDEPENDENT SVARITA;06SIGN VISARGA SVARITA
19UDATTA;11REVERSED VISARGA UDATTA;11VISARGA ANUDATTA;11REVERSED VISARGA ANUDATTA
11VISARGA UDATTA WITH TAIL;19ANUDATTA WITH TAIL;11ANUSVARA ANTARGOMUKHA;20BAHIRGOMUKHA
20VAMAGOMUKHA;31 WITH TAIL;11TIRYAK;11HEXIFORM LONG ANUSVARA;11LONG ANUSVARA
11RTHANG LONG ANUSVARA;11ANUSVARA UBHAYATO MUKHA;12RDHAVISARGA;11ROTATED ARDHAVISARGA
06TONE CANDRA ABOVE;06SIGN JIHVAMULIYA;11UPADHMANIYA;11ATIKRAMA;06TONE RING ABOVE
11DOUBLE RING ABOVE;06SIGN DOUBLE ANUSVARA ANTARGOMUKHA;+1D00;00LATIN LETTER SMALL CAPITAL A;28E
06SMALL LETTER TURNED AE;06LETTER SMALL CAPITAL BARRED B;27C;27D;27ETH;28
06SMALL LETTER TURNED OPEN E;26I;06LETTER SMALL CAPITAL J;27K;27L WITH STROKE;27M;27REVERSED N;27O
28PEN O;06SMALL LETTER SIDEWAYS O;29PEN O;29 WITH STROKE;19TURNED OE;06LETTER SMALL CAPITAL OU
06SMALL LETTER TOP HALF O;19BOTTOM HALF O;06LETTER SMALL CAPITAL P;27REVERSED R;27TURNED R;28;27U
06SMALL LETTER SIDEWAYS U;28DIAERESIZED U;28TURNED M;06LETTER SMALL CAPITAL V;27W;27Z;27EZH
13VOICED LARYNGEAL SPIRANT;13AIN;00GREEK LETTER SMALL CAPITAL GAMMA;27LAMDA;27PI;27RHO;27PSI
00CYRILLIC LETTER SMALL CAPITAL EL;00MODIFIER LETTER CAPITAL A;25E;24B;25ARRED B;24D;24E
24REVERSED E;24G;24H;24I;24J;24K;24L;24M;24N;24REVERSED N;24O;25U;24P;24R;24T;24U;24W;16SMALL A
22TURNED A;22ALPHA;22TURNED AE;22B;22D;22E;22SCHWA;22OPEN E;22TURNED OPEN E;22G;22TURNED I;22K;22M
22ENG;22O;23PEN O;22TOP HALF O;22BOTTOM HALF O;22P;22T;22U;22SIDEWAYS U;22TURNED M;22V;22AIN
22BETA;22GREEK GAMMA;22DELTA;22GREEK PHI;22CHI;00LATIN SUBSCRIPT SMALL LETTER I;29R;29U;29V
00GREEK SUBSCRIPT SMALL LETTER BETA;29GAMMA;29RHO;29PHI;29CHI;00LATIN SMALL LETTER UE
19B WITH MIDDLE TILDE;19D WITH MIDDLE TILDE;19F WITH MIDDLE TILDE;19M WITH MIDDLE TILDE
19N WITH MIDDLE TILDE;19P WITH MIDDLE TILDE;19R WITH MIDDLE TILDE;26FISHHOOK AND MIDDLE TILDE
19S WITH MIDDLE TILDE;19T WITH MIDDLE TILDE;19Z WITH MIDDLE TILDE;19TURNED G
00MODIFIER LETTER CYRILLIC EN;00LATIN SMALL LETTER INSULAR G;19TH WITH STRIKETHROUGH
12CAPITAL LETTER I WITH STROKE;12LETTER IOTA WITH STROKE;19P WITH STROKE
12CAPITAL LETTER U WITH STROKE;12LETTER UPSILON WITH STROKE;19B WITH PALATAL HOOK
19D WITH PALATAL HOOK;19F WITH PALATAL HOOK;19G WITH PALATAL HOOK;19K WITH PALATAL HOOK
19L WITH PALATAL HOOK;19M WITH PALATAL HOOK;19N WITH PALATAL HOOK;19P WITH PALATAL HOOK
19R WITH PALATAL HOOK;19S WITH PALATAL HOOK;19ESH WITH PALATAL HOOK;19V WITH PALATAL HOOK
19X WITH PALATAL HOOK;19Z WITH PALATAL HOOK;19A WITH RETROFLEX HOOK;20LPHA WITH RETROFLEX HOOK
19D WITH HOOK AND TAIL;19E WITH RETROFLEX HOOK;19OPEN E WITH RETROFLEX HOOK
19REVERSED OPEN E WITH RETROFLEX HOOK;19SCHWA WITH RETROFLEX HOOK;19I WITH RETROFLEX HOOK
19OPEN O WITH RETROFLEX HOOK;19ESH WITH RETROFLEX HOOK;19U WITH RETROFLEX HOOK
19EZH WITH RETROFLEX HOOK;00MODIFIER LETTER SMALL TURNED ALPHA;22C;23 WITH CURL;22ETH
22REVERSED OPEN E;22F;22DOTLESS J WITH STROKE;22SCRIPT G;22TURNED H;22I WITH STROKE;23OTA
22CAPITAL I;31 WITH STROKE;22J WITH CROSSED-TAIL;22L WITH RETROFLEX HOOK;29PALATAL HOOK
22CAPITAL L;22M WITH HOOK;22TURNED M WITH LONG LEG;22N WITH LEFT HOOK;29RETROFLEX HOOK;22CAPITAL N
22BARRED O;22PHI;22S WITH HOOK;22ESH;22T WITH PALATAL HOOK;22U BAR;23PSILON;22CAPITAL U
22V WITH HOOK;22TURNED V;22Z;23 WITH RETROFLEX HOOK;29CURL;22EZH;22THETA
00COMBINING DOTTED GRAVE ACCENT;17ACUTE ACCENT;10SNAKE BELOW;11USPENSION MARK;10MACRON-ACUTE
10GRAVE-MACRON;10MACRON-GRAVE;10ACUTE-MACRON;10GRAVE-ACUTE-GRAVE;10ACUTE-GRAVE-ACUTE
10LATIN SMALL LETTER R BELOW;10BREVE-MACRON;10MACRON-BREVE;10DOUBLE CIRCUMFLEX ABOVE
10OGONEK ABOVE;10ZIGZAG BELOW;10IS BELOW;10UR ABOVE;11S ABOVE
10LATIN SMALL LETTER FLATTENED OPEN A ABOVE;29AE;30O;30V;29C CEDILLA;29INSULAR D;29ETH;29G
16LETTER SMALL CAPITAL G;16SMALL LETTER K;29L;16LETTER SMALL CAPITAL L;37M;16SMALL LETTER N
16LETTER SMALL CAPITAL N;37R;16SMALL LETTER R ROTUNDA;29S;29LONG S;29Z;29ALPHA;29B;30ETA;29SCHWA
29F;29L WITH DOUBLE MIDDLE TILDE;29O WITH LIGHT CENTRALIZATION STROKE;29P;29ESH
29U WITH LIGHT CENTRALIZATION STROKE;29W;29A WITH DIAERESIS;29O WITH DIAERESIS;29U WITH DIAERESIS
10UP TACK ABOVE;10KAVYKA ABOVE RIGHT;23LEFT;10DOT ABOVE LEFT;10WIDE INVERTED BRIDGE BELOW
10DOT BELOW LEFT;11ELETION MARK;11OUBLE INVERTED BREVE BELOW;10ALMOST EQUAL TO BELOW
10LEFT ARROWHEAD ABOVE;10RIGHT ARROWHEAD AND DOWN ARROWHEAD BELOW
00LATIN CAPITAL LETTER A WITH RING BELOW;06SMALL LETTER A WITH RING BELOW
06CAPITAL LETTER B WITH DOT ABOVE;06SMALL LETTER B WITH DOT ABOVE
06CAPITAL LETTER B WITH DOT BELOW;06SMALL LETTER B WITH DOT BELOW
06CAPITAL LETTER B WITH LINE BELOW;06SMALL LETTER B WITH LINE BELOW
06CAPITAL LETTER C WITH CEDILLA AND ACUTE;06SMALL LETTER C WITH CEDILLA AND ACUTE
06CAPITAL LETTER D WITH DOT ABOVE;06SMALL LETTER D WITH DOT ABOVE
06CAPITAL LETTER D WITH DOT BELOW;06SMALL LETTER D WITH DOT BELOW
06CAPITAL LETTER D WITH LINE BELOW;06SMALL LETTER D WITH LINE BELOW
06CAPITAL LETTER D WITH CEDILLA;06SMALL LETTER D WITH CEDILLA
06CAPITAL LETTER D WITH CIRCUMFLEX BELOW;06SMALL LETTER D WITH CIRCUMFLEX BELOW
06CAPITAL LETTER E WITH MACRON AND GRAVE;06SMALL LETTER E WITH MACRON AND GRAVE
06CAPITAL LETTER E WITH MACRON AND ACUTE;06SMALL LETTER E WITH MACRON AND ACUTE
06CAPITAL LETTER E WITH CIRCUMFLEX BELOW;06SMALL LETTER E WITH CIRCUMFLEX BELOW
06CAPITAL LETTER E WITH TILDE BELOW;06SMALL LETTER E WITH TILDE BELOW
06CAPITAL LETTER E WITH CEDILLA AND BREVE;06SMALL LETTER E WITH CEDILLA AND BREVE
06CAPITAL LETTER F WITH DOT ABOVE;06SMALL LETTER F WITH DOT ABOVE;06CAPITAL LETTER G WITH MACRON
06SMALL LETTER G WITH MACRON;06CAPITAL LETTER H WITH DOT ABOVE;06SMALL LETTER H WITH DOT ABOVE
06CAPITAL LETTER H WITH DOT BELOW;06SMALL LETTER H WITH DOT BELOW
06CAPITAL LETTER H WITH DIAERESIS;06SMALL LETTER H WITH DIAERESIS;06CAPITAL LETTER H WITH CEDILLA
06SMALL LETTER H WITH CEDILLA;06CAPITAL LETTER H WITH BREVE BELOW
06SMALL LETTER H WITH BREVE BELOW;06CAPITAL LETTER I WITH TILDE BELOW
06SMALL LETTER I WITH TILDE BELOW;06CAPITAL LETTER I WITH DIAERESIS AND ACUTE
06SMALL LETTER I WITH DIAERESIS AND ACUTE;06CAPITAL LETTER K WITH ACUTE
06SMALL LETTER K WITH ACUTE;06CAPITAL LETTER K WITH DOT BELOW;06SMALL LETTER K WITH DOT BELOW
06CAPITAL LETTER K WITH LINE BELOW;06SMALL LETTER K WITH LINE BELOW
06CAPITAL LETTER L WITH DOT BELOW;06SMALL LETTER L WITH DOT BELOW
06CAPITAL LETTER L WITH DOT BELOW AND MACRON;06SMALL LETTER L WITH DOT BELOW AND MACRON
06CAPITAL LETTER L WITH LINE BELOW;06SMALL LETTER L WITH LINE BELOW
06CAPITAL LETTER L WITH CIRCUMFLEX BELOW;06SMALL LETTER L WITH CIRCUMFLEX BELOW
06CAPITAL LETTER M WITH ACUTE;06SMALL LETTER M WITH ACUTE;06CAPITAL LETTER M WITH DOT ABOVE
06SMALL LETTER M WITH DOT ABOVE;06CAPITAL LETTER M WITH DOT BELOW;06SMALL LETTER M WITH DOT BELOW
06CAPITAL LETTER N WITH DOT ABOVE;06SMALL LETTER N WITH DOT ABOVE
06CAPITAL LETTER N WITH DOT BELOW;06SMALL LETTER N WITH DOT BELOW
06CAPITAL LETTER N WITH LINE BELOW;06SMALL LETTER N WITH LINE BELOW
06CAPITAL LETTER N WITH CIRCUMFLEX BELOW;06SMALL LETTER N WITH CIRCUMFLEX BELOW
06CAPITAL LETTER O WITH TILDE AND ACUTE;06SMALL LETTER O WITH TILDE AND ACUTE
06CAPITAL LETTER O WITH TILDE AND DIAERESIS;06SMALL LETTER O WITH TILDE AND DIAERESIS
06CAPITAL LETTER O WITH MACRON AND GRAVE;06SMALL LETTER O WITH MACRON AND GRAVE
06CAPITAL LETTER O WITH MACRON AND ACUTE;06SMALL LETTER O WITH MACRON AND ACUTE
06CAPITAL LETTER P WITH ACUTE;06SMALL LETTER P WITH ACUTE;06CAPITAL LETTER P WITH DOT ABOVE
06SMALL LETTER P WITH DOT ABOVE;06CAPITAL LETTER R WITH DOT ABOVE;06SMALL LETTER R WITH DOT ABOVE
06CAPITAL LETTER R WITH DOT BELOW;06SMALL LETTER R WITH DOT BELOW
06CAPITAL LETTER R WITH DOT BELOW AND MACRON;06SMALL LETTER R WITH DOT BELOW AND MACRON
06CAPITAL LETTER R WITH LINE BELOW;06SMALL LETTER R WITH LINE BELOW
06CAPITAL LETTER S WITH DOT ABOVE;06SMALL LETTER S WITH DOT ABOVE
06CAPITAL LETTER S WITH DOT BELOW;06SMALL LETTER S WITH DOT BELOW
06CAPITAL LETTER S WITH ACUTE AND DOT ABOVE;06SMALL LETTER S WITH ACUTE AND DOT ABOVE
06CAPITAL LETTER S WITH CARON AND DOT ABOVE;06SMALL LETTER S WITH CARON AND DOT ABOVE
06CAPITAL LETTER S WITH DOT BELOW AND DOT ABOVE;06SMALL LETTER S WITH DOT BELOW AND DOT ABOVE
06CAPITAL LETTER T WITH DOT ABOVE;06SMALL LETTER T WITH DOT ABOVE
06CAPITAL LETTER T WITH DOT BELOW;06SMALL LETTER T WITH DOT BELOW
06CAPITAL LETTER T WITH LINE BELOW;06SMALL LETTER T WITH LINE BELOW
06CAPITAL LETTER T WITH CIRCUMFLEX BELOW;06SMALL LETTER T WITH CIRCUMFLEX BELOW
06CAPITAL LETTER U WITH DIAERESIS BELOW;06SMALL LETTER U WITH DIAERESIS BELOW
06CAPITAL LETTER U WITH TILDE BELOW;06SMALL LETTER U WITH TILDE BELOW
06CAPITAL LETTER U WITH CIRCUMFLEX BELOW;06SMALL LETTER U WITH CIRCUMFLEX BELOW
06CAPITAL LETTER U WITH TILDE AND ACUTE;06SMALL LETTER U WITH TILDE AND ACUTE
06CAPITAL LETTER U WITH MACRON AND DIAERESIS;06SMALL LETTER U WITH MACRON AND DIAERESIS
06CAPITAL LETTER V WITH TILDE;06SMALL LETTER V WITH TILDE;06CAPITAL LETTER V WITH DOT BELOW
06SMALL LETTER V WITH DOT BELOW;06CAPITAL LETTER W WITH GRAVE;06SMALL LETTER W WITH GRAVE
06CAPITAL LETTER W WITH ACUTE;06SMALL LETTER W WITH ACUTE;06CAPITAL LETTER W WITH DIAERESIS
06SMALL LETTER W WITH DIAERESIS;06CAPITAL LETTER W WITH DOT ABOVE;06SMALL LETTER W WITH DOT ABOVE
06CAPITAL LETTER W WITH DOT BELOW;06SMALL LETTER W WITH DOT BELOW
06CAPITAL LETTER X WITH DOT ABOVE;06SMALL LETTER X WITH DOT ABOVE
06CAPITAL LETTER X WITH DIAERESIS;06SMALL LETTER X WITH DIAERESIS
06CAPITAL LETTER Y WITH DOT ABOVE;06SMALL LETTER Y WITH DOT ABOVE
06CAPITAL LETTER Z WITH CIRCUMFLEX;06SMALL LETTER Z WITH CIRCUMFLEX
06CAPITAL LETTER Z WITH DOT BELOW;06SMALL LETTER Z WITH DOT BELOW
06CAPITAL LETTER Z WITH LINE BELOW;06SMALL LETTER Z WITH LINE BELOW;19H WITH LINE BELOW
19T WITH DIAERESIS;19W WITH RING ABOVE;19Y WITH RING ABOVE;19A WITH RIGHT HALF RING
19LONG S WITH DOT ABOVE;32IAGONAL STROKE;31HIGH STROKE;06CAPITAL LETTER SHARP S
06SMALL LETTER DELTA;06CAPITAL LETTER A WITH DOT BELOW;06SMALL LETTER A WITH DOT BELOW
06CAPITAL LETTER A WITH HOOK ABOVE;06SMALL LETTER A WITH HOOK ABOVE
06CAPITAL LETTER A WITH CIRCUMFLEX AND ACUTE;06SMALL LETTER A WITH CIRCUMFLEX AND ACUTE
06CAPITAL LETTER A WITH CIRCUMFLEX AND GRAVE;06SMALL LETTER A WITH CIRCUMFLEX AND GRAVE
06CAPITAL LETTER A WITH CIRCUMFLEX AND HOOK ABOVE;06SMALL LETTER A WITH CIRCUMFLEX AND HOOK ABOVE
06CAPITAL LETTER A WITH CIRCUMFLEX AND TILDE;06SMALL LETTER A WITH CIRCUMFLEX AND TILDE
06CAPITAL LETTER A WITH CIRCUMFLEX AND DOT BELOW;06SMALL LETTER A WITH CIRCUMFLEX AND DOT BELOW
06CAPITAL LETTER A WITH BREVE AND ACUTE;06SMALL LETTER A WITH BREVE AND ACUTE
06CAPITAL LETTER A WITH BREVE AND GRAVE;06SMALL LETTER A WITH BREVE AND GRAVE
06CAPITAL LETTER A WITH BREVE AND HOOK ABOVE;06SMALL LETTER A WITH BREVE AND HOOK ABOVE
06CAPITAL LETTER A WITH BREVE AND TILDE;06SMALL LETTER A WITH BREVE AND TILDE
06CAPITAL LETTER A WITH BREVE AND DOT BELOW;06SMALL LETTER A WITH BREVE AND DOT BELOW
06CAPITAL LETTER E WITH DOT BELOW;06SMALL LETTER E WITH DOT BELOW
06CAPITAL LETTER E WITH HOOK ABOVE;06SMALL LETTER E WITH HOOK ABOVE;06CAPITAL LETTER E WITH TILDE
06SMALL LETTER E WITH TILDE;06CAPITAL LETTER E WITH CIRCUMFLEX AND ACUTE
06SMALL LETTER E WITH CIRCUMFLEX AND ACUTE;06CAPITAL LETTER E WITH CIRCUMFLEX AND GRAVE
06SMALL LETTER E WITH CIRCUMFLEX AND GRAVE;06CAPITAL LETTER E WITH CIRCUMFLEX AND HOOK ABOVE
06SMALL LETTER E WITH CIRCUMFLEX AND HOOK ABOVE;06CAPITAL LETTER E WITH CIRCUMFLEX AND TILDE
06SMALL LETTER E WITH CIRCUMFLEX AND TILDE;06CAPITAL LETTER E WITH CIRCUMFLEX AND DOT BELOW
06SMALL LETTER E WITH CIRCUMFLEX AND DOT BELOW;06CAPITAL LETTER I WITH HOOK ABOVE
06SMALL LETTER I WITH HOOK ABOVE;06CAPITAL LETTER I WITH DOT BELOW;06SMALL LETTER I WITH DOT BELOW
06CAPITAL LETTER O WITH DOT BELOW;06SMALL LETTER O WITH DOT BELOW
06CAPITAL LETTER O WITH HOOK ABOVE;06SMALL LETTER O WITH HOOK ABOVE
06CAPITAL LETTER O WITH CIRCUMFLEX AND ACUTE;06SMALL LETTER O WITH CIRCUMFLEX AND ACUTE
06CAPITAL LETTER O WITH CIRCUMFLEX AND GRAVE;06SMALL LETTER O WITH CIRCUMFLEX AND GRAVE
06CAPITAL LETTER O WITH CIRCUMFLEX AND HOOK ABOVE;06SMALL LETTER O WITH CIRCUMFLEX AND HOOK ABOVE
06CAPITAL LETTER O WITH CIRCUMFLEX AND TILDE;06SMALL LETTER O WITH CIRCUMFLEX AND TILDE
06CAPITAL LETTER O WITH CIRCUMFLEX AND DOT BELOW;06SMALL LETTER O WITH CIRCUMFLEX AND DOT BELOW
06CAPITAL LETTER O WITH HORN AND ACUTE;06SMALL LETTER O WITH HORN AND ACUTE
06CAPITAL LETTER O WITH HORN AND GRAVE;06SMALL LETTER O WITH HORN AND GRAVE
06CAPITAL LETTER O WITH HORN AND HOOK ABOVE;06SMALL LETTER O WITH HORN AND HOOK ABOVE
06CAPITAL LETTER O WITH HORN AND TILDE;06SMALL LETTER O WITH HORN AND TILDE
06CAPITAL LETTER O WITH HORN AND DOT BELOW;06SMALL LETTER O WITH HORN AND DOT BELOW
06CAPITAL LETTER U WITH DOT BELOW;06SMALL LETTER U WITH DOT BELOW
06CAPITAL LETTER U WITH HOOK ABOVE;06SMALL LETTER U WITH HOOK ABOVE
06CAPITAL LETTER U WITH HORN AND ACUTE;06SMALL LETTER U WITH HORN AND ACUTE
06CAPITAL LETTER U WITH HORN AND GRAVE;06SMALL LETTER U WITH HORN AND GRAVE
06CAPITAL LETTER U WITH HORN AND HOOK ABOVE;06SMALL LETTER U WITH HORN AND HOOK ABOVE
06CAPITAL LETTER U WITH HORN AND TILDE;06SMALL LETTER U WITH HORN AND TILDE
06CAPITAL LETTER U WITH HORN AND DOT BELOW;06SMALL LETTER U WITH HORN AND DOT BELOW
06CAPITAL LETTER Y WITH GRAVE;06SMALL LETTER Y WITH GRAVE;06CAPITAL LETTER Y WITH DOT BELOW
06SMALL LETTER Y WITH DOT BELOW;06CAPITAL LETTER Y WITH HOOK ABOVE
06SMALL LETTER Y WITH HOOK ABOVE;06CAPITAL LETTER Y WITH TILDE;06SMALL LETTER Y WITH TILDE
06CAPITAL LETTER MIDDLE-WELSH LL;06SMALL LETTER MIDDLE-WELSH LL;06CAPITAL LETTER MIDDLE-WELSH V
06SMALL LETTER MIDDLE-WELSH V;06CAPITAL LETTER Y WITH LOOP;06SMALL LETTER Y WITH LOOP
00GREEK SMALL LETTER ALPHA WITH PSILI;30DASIA;30PSILI AND VARIA;30DASIA AND VARIA;30PSILI AND OXIA
30DASIA AND OXIA;30PSILI AND PERISPOMENI;30DASIA AND PERISPOMENI;06CAPITAL LETTER ALPHA WITH PSILI
32DASIA;32PSILI AND VARIA;32DASIA AND VARIA;32PSILI AND OXIA;32DASIA AND OXIA
32PSILI AND PERISPOMENI;32DASIA AND PERISPOMENI;06SMALL LETTER EPSILON WITH PSILI;32DASIA
32PSILI AND VARIA;32DASIA AND VARIA;32PSILI AND OXIA;32DASIA AND OXIA;+1F18
06CAPITAL LETTER EPSILON WITH PSILI;34DASIA;34PSILI AND VARIA;34DASIA AND VARIA;34PSILI AND OXIA
34DASIA AND OXIA;+1F20;06SMALL LETTER ETA WITH PSILI;28DASIA;28PSILI AND VARIA;28DASIA AND VARIA
28PSILI AND OXIA;28DASIA AND OXIA;28PSILI AND PERISPOMENI;28DASIA AND PERISPOMENI
06CAPITAL LETTER ETA WITH PSILI;30DASIA;30PSILI AND VARIA;30DASIA AND VARIA;30PSILI AND OXIA
30DASIA AND OXIA;30PSILI AND PERISPOMENI;30DASIA AND PERISPOMENI;06SMALL LETTER IOTA WITH PSILI
29DASIA;29PSILI AND VARIA;29DASIA AND VARIA;29PSILI AND OXIA;29DASIA AND OXIA
29PSILI AND PERISPOMENI;29DASIA AND PERISPOMENI;06CAPITAL LETTER IOTA WITH PSILI;31DASIA
31PSILI AND VARIA;31DASIA AND VARIA;31PSILI AND OXIA;31DASIA AND OXIA;31PSILI AND PERISPOMENI
31DASIA AND PERISPOMENI;06SMALL LETTER OMICRON WITH PSILI;32DASIA;32PSILI AND VARIA
32DASIA AND VARIA;32PSILI AND OXIA;32DASIA AND OXIA;+1F48;06CAPITAL LETTER OMICRON WITH PSILI
34DASIA;34PSILI AND VARIA;34DASIA AND VARIA;34PSILI AND OXIA;34DASIA AND OXIA;+1F50
06SMALL LETTER UPSILON WITH PSILI;32DASIA;32PSILI AND VARIA;32DASIA AND VARIA;32PSILI AND OXIA
32DASIA AND OXIA;32PSILI AND PERISPOMENI;32DASIA AND PERISPOMENI;+1F59
06CAPITAL LETTER UPSILON WITH DASIA;+1F5B;39 AND VARIA;+1F5D;44OXIA;+1F5F;44PERISPOMENI
06SMALL LETTER OMEGA WITH PSILI;30DASIA;30PSILI AND VARIA;30DASIA AND VARIA;30PSILI AND OXIA
30DASIA AND OXIA;30PSILI AND PERISPOMENI;30DASIA AND PERISPOMENI;06CAPITAL LETTER OMEGA WITH PSILI
32DASIA;32PSILI AND VARIA;32DASIA AND VARIA;32PSILI AND OXIA;32DASIA AND OXIA
32PSILI AND PERISPOMENI;32DASIA AND PERISPOMENI;06SMALL LETTER ALPHA WITH VARIA;30OXIA
19EPSILON WITH VARIA;32OXIA;20TA WITH VARIA;28OXIA;19IOTA WITH VARIA;29OXIA;19OMICRON WITH VARIA
32OXIA;19UPSILON WITH VARIA;32OXIA;19OMEGA WITH VARIA;30OXIA;+1F80
19ALPHA WITH PSILI AND YPOGEGRAMMENI;30DASIA AND YPOGEGRAMMENI;30PSILI AND VARIA AND YPOGEGRAMMENI
30DASIA AND VARIA AND YPOGEGRAMMENI;30PSILI AND OXIA AND YPOGEGRAMMENI
30DASIA AND OXIA AND YPOGEGRAMMENI;30PSILI AND PERISPOMENI AND YPOGEGRAMMENI
30DASIA AND PERISPOMENI AND YPOGEGRAMMENI;06CAPITAL LETTER ALPHA WITH PSILI AND PROSGEGRAMMENI
32DASIA AND PROSGEGRAMMENI;32PSILI AND VARIA AND PROSGEGRAMMENI
32DASIA AND VARIA AND PROSGEGRAMMENI;32PSILI AND OXIA AND PROSGEGRAMMENI
32DASIA AND OXIA AND PROSGEGRAMMENI;32PSILI AND PERISPOMENI AND PROSGEGRAMMENI
32DASIA AND PERISPOMENI AND PROSGEGRAMMENI;06SMALL LETTER ETA WITH PSILI AND YPOGEGRAMMENI
28DASIA AND YPOGEGRAMMENI;28PSILI AND VARIA AND YPOGEGRAMMENI;28DASIA AND VARIA AND YPOGEGRAMMENI
28PSILI AND OXIA AND YPOGEGRAMMENI;28DASIA AND OXIA AND YPOGEGRAMMENI
28PSILI AND PERISPOMENI AND YPOGEGRAMMENI;28DASIA AND PERISPOMENI AND YPOGEGRAMMENI
06CAPITAL LETTER ETA WITH PSILI AND PROSGEGRAMMENI;30DASIA AND PROSGEGRAMMENI
30PSILI AND VARIA AND PROSGEGRAMMENI;30DASIA AND VARIA AND PROSGEGRAMMENI
30PSILI AND OXIA AND PROSGEGRAMMENI;30DASIA AND OXIA AND PROSGEGRAMMENI
30PSILI AND PERISPOMENI AND PROSGEGRAMMENI;30DASIA AND PERISPOMENI AND PROSGEGRAMMENI
06SMALL LETTER OMEGA WITH PSILI AND YPOGEGRAMMENI;30DASIA AND YPOGEGRAMMENI
30PSILI AND VARIA AND YPOGEGRAMMENI;30DASIA AND VARIA AND YPOGEGRAMMENI
30PSILI AND OXIA AND YPOGEGRAMMENI;30DASIA AND OXIA AND YPOGEGRAMMENI
30PSILI AND PERISPOMENI AND YPOGEGRAMMENI;30DASIA AND PERISPOMENI AND YPOGEGRAMMENI
06CAPITAL LETTER OMEGA WITH PSILI AND PROSGEGRAMMENI;32DASIA AND PROSGEGRAMMENI
32PSILI AND VARIA AND PROSGEGRAMMENI;32DASIA AND VARIA AND PROSGEGRAMMENI
32PSILI AND OXIA AND PROSGEGRAMMENI;32DASIA AND OXIA AND PROSGEGRAMMENI
32PSILI AND PERISPOMENI AND PROSGEGRAMMENI;32DASIA AND PERISPOMENI AND PROSGEGRAMMENI
06SMALL LETTER ALPHA WITH VRACHY;30MACRON;30VARIA AND YPOGEGRAMMENI;30YPOGEGRAMMENI
30OXIA AND YPOGEGRAMMENI;+1FB6;30PERISPOMENI;41 AND YPOGEGRAMMENI
06CAPITAL LETTER ALPHA WITH VRACHY;32MACRON;32VARIA;32OXIA;32PROSGEGRAMMENI;06KORONIS
06PROSGEGRAMMENI;07SILI;07ERISPOMENI;06DIALYTIKA AND PERISPOMENI
06SMALL LETTER ETA WITH VARIA AND YPOGEGRAMMENI;28YPOGEGRAMMENI;28OXIA AND YPOGEGRAMMENI;+1FC6
28PERISPOMENI;39 AND YPOGEGRAMMENI;06CAPITAL LETTER EPSILON WITH VARIA;34OXIA;22TA WITH VARIA
30OXIA;30PROSGEGRAMMENI;06PSILI AND VARIA;16OXIA;16PERISPOMENI;06SMALL LETTER IOTA WITH VRACHY
29MACRON;29DIALYTIKA AND VARIA;43OXIA;+1FD6;29PERISPOMENI;29DIALYTIKA AND PERISPOMENI
06CAPITAL LETTER IOTA WITH VRACHY;31MACRON;31VARIA;31OXIA;+1FDD;06DASIA AND VARIA;16OXIA
16PERISPOMENI;06SMALL LETTER UPSILON WITH VRACHY;32MACRON;32DIALYTIKA AND VARIA;46OXIA
19RHO WITH PSILI;28DASIA;19UPSILON WITH PERISPOMENI;32DIALYTIKA AND PERISPOMENI
06CAPITAL LETTER UPSILON WITH VRACHY;34MACRON;34VARIA;34OXIA;21RHO WITH DASIA
06DIALYTIKA AND VARIA;20OXIA;06VARIA;+1FF2;06SMALL LETTER OMEGA WITH VARIA AND YPOGEGRAMMENI
30YPOGEGRAMMENI;30OXIA AND YPOGEGRAMMENI;+1FF6;30PERISPOMENI;41 AND YPOGEGRAMMENI
06CAPITAL LETTER OMICRON WITH VARIA;34OXIA;23EGA WITH VARIA;32OXIA;32PROSGEGRAMMENI;06OXIA;06DASIA
+2000;00EN QUAD;01M QUAD;01N SPACE;01M SPACE;00THREE-PER-EM SPACE;00FOUR-PER-EM SPACE
00SIX-PER-EM SPACE;00FIGURE SPACE;00PUNCTUATION SPACE;00THIN SPACE;00HAIR SPACE;00ZERO WIDTH SPACE
11NON-JOINER;11JOINER;00LEFT-TO-RIGHT MARK;00RIGHT-TO-LEFT MARK;00HYPHEN;00NON-BREAKING HYPHEN
00FIGURE DASH;00EN DASH;01M DASH;00HORIZONTAL BAR;00DOUBLE VERTICAL LINE;07LOW LINE
00LEFT SINGLE QUOTATION MARK;00RIGHT SINGLE QUOTATION MARK;00SINGLE LOW-9 QUOTATION MARK
07HIGH-REVERSED-9 QUOTATION MARK;00LEFT DOUBLE QUOTATION MARK;00RIGHT DOUBLE QUOTATION MARK
00DOUBLE LOW-9 QUOTATION MARK;07HIGH-REVERSED-9 QUOTATION MARK;01AGGER;01OUBLE DAGGER;00BULLET
00TRIANGULAR BULLET;00ONE DOT LEADER;00TWO DOT LEADER;00HORIZONTAL ELLIPSIS;01YPHENATION POINT
00LINE SEPARATOR;00PARAGRAPH SEPARATOR;00LEFT-TO-RIGHT EMBEDDING;00RIGHT-TO-LEFT EMBEDDING
00POP DIRECTIONAL FORMATTING;00LEFT-TO-RIGHT OVERRIDE;00RIGHT-TO-LEFT OVERRIDE
00NARROW NO-BREAK SPACE;00PER MILLE SIGN;04TEN THOUSAND SIGN;01RIME;00DOUBLE PRIME;00TRIPLE PRIME
00REVERSED PRIME;09DOUBLE PRIME;09TRIPLE PRIME;00CARET;00SINGLE LEFT-POINTING ANGLE QUOTATION MARK
07RIGHT-POINTING ANGLE QUOTATION MARK;00REFERENCE MARK;00DOUBLE EXCLAMATION MARK;00INTERROBANG
00OVERLINE;00UNDERTIE;00CHARACTER TIE;01ARET INSERTION POINT;00ASTERISM;00HYPHEN BULLET
00FRACTION SLASH;00LEFT SQUARE BRACKET WITH QUILL;00RIGHT SQUARE BRACKET WITH QUILL
00DOUBLE QUESTION MARK;00QUESTION EXCLAMATION MARK;00EXCLAMATION QUESTION MARK;00TIRONIAN SIGN ET
00REVERSED PILCROW SIGN;00BLACK LEFTWARDS BULLET;06RIGHTWARDS BULLET;00LOW ASTERISK
00REVERSED SEMICOLON;00CLOSE UP;00TWO ASTERISKS ALIGNED VERTICALLY;00COMMERCIAL MINUS SIGN
00SWUNG DASH;00INVERTED UNDERTIE;00FLOWER PUNCTUATION MARK;00THREE DOT PUNCTUATION
00QUADRUPLE PRIME;00FOUR DOT PUNCTUATION;01IVE DOT PUNCTUATION;00TWO DOT PUNCTUATION
00FOUR DOT MARK;00DOTTED CROSS;00TRICOLON;00VERTICAL FOUR DOTS;00MEDIUM MATHEMATICAL SPACE
00WORD JOINER;00FUNCTION APPLICATION;00INVISIBLE TIMES;10SEPARATOR;10PLUS;+2066
00LEFT-TO-RIGHT ISOLATE;00RIGHT-TO-LEFT ISOLATE;00FIRST STRONG ISOLATE;00POP DIRECTIONAL ISOLATE
00INHIBIT SYMMETRIC SWAPPING;00ACTIVATE SYMMETRIC SWAPPING;00INHIBIT ARABIC FORM SHAPING
00ACTIVATE ARABIC FORM SHAPING;00NATIONAL DIGIT SHAPES;01OMINAL DIGIT SHAPES;00SUPERSCRIPT ZERO
12LATIN SMALL LETTER I;+2074;12FOUR;13IVE;12SIX;13EVEN;12EIGHT;12NINE;12PLUS SIGN;12MINUS
12EQUALS SIGN;12LEFT PARENTHESIS;12RIGHT PARENTHESIS;12LATIN SMALL LETTER N;02BSCRIPT ZERO;10ONE
10TWO;11HREE;10FOUR;11IVE;10SIX;11EVEN;10EIGHT;10NINE;10PLUS SIGN;10MINUS;10EQUALS SIGN
10LEFT PARENTHESIS;10RIGHT PARENTHESIS;+2090;00LATIN SUBSCRIPT SMALL LETTER A;29E;29O;29X;29SCHWA
29H;29K;29L;29M;29N;29P;29S;29T;+20A0;00EURO-CURRENCY SIGN;00COLON SIGN;01RUZEIRO SIGN
00FRENCH FRANC SIGN;00LIRA SIGN;00MILL SIGN;00NAIRA SIGN;00PESETA SIGN;00RUPEE SIGN;00WON SIGN
00NEW SHEQEL SIGN;00DONG SIGN;00EURO SIGN;00KIP SIGN;00TUGRIK SIGN;00DRACHMA SIGN
00GERMAN PENNY SIGN;00PESO SIGN;00GUARANI SIGN;00AUSTRAL SIGN;00HRYVNIA SIGN;00CEDI SIGN
00LIVRE TOURNOIS SIGN;00SPESMILO SIGN;00TENGE SIGN;00INDIAN RUPEE SIGN;00TURKISH LIRA SIGN
00NORDIC MARK SIGN;00MANAT SIGN;00RUBLE SIGN;00LARI SIGN;00BITCOIN SIGN;00SOM SIGN;+20D0
00COMBINING LEFT HARPOON ABOVE;10RIGHT HARPOON ABOVE;10LONG VERTICAL LINE OVERLAY
10SHORT VERTICAL LINE OVERLAY;10ANTICLOCKWISE ARROW ABOVE;10CLOCKWISE ARROW ABOVE
10LEFT ARROW ABOVE;10RIGHT ARROW ABOVE;12NG OVERLAY;10CLOCKWISE RING OVERLAY
10ANTICLOCKWISE RING OVERLAY;10THREE DOTS ABOVE;10FOUR DOTS ABOVE;10ENCLOSING CIRCLE;20SQUARE
20DIAMOND;20CIRCLE BACKSLASH;10LEFT RIGHT ARROW ABOVE;10ENCLOSING SCREEN;20KEYCAP
20UPWARD POINTING TRIANGLE;10REVERSE SOLIDUS OVERLAY;10DOUBLE VERTICAL STROKE OVERLAY
10ANNUITY SYMBOL;10TRIPLE UNDERDOT;10WIDE BRIDGE ABOVE;10LEFTWARDS ARROW OVERLAY
11ONG DOUBLE SOLIDUS OVERLAY;10RIGHTWARDS HARPOON WITH BARB DOWNWARDS
10LEFTWARDS HARPOON WITH BARB DOWNWARDS;14 ARROW BELOW;10RIGHT ARROW BELOW;10ASTERISK ABOVE;+2100
00ACCOUNT OF;01DDRESSED TO THE SUBJECT;00DOUBLE-STRUCK CAPITAL C;01EGREE CELSIUS
00CENTRE LINE SYMBOL;01ARE OF;02DA UNA;00EULER CONSTANT;00SCRUPLE;00DEGREE FAHRENHEIT
00SCRIPT SMALL G;07CAPITAL H;00BLACK-LETTER CAPITAL H;00DOUBLE-STRUCK CAPITAL H;00PLANCK CONSTANT
15 OVER TWO PI;00SCRIPT CAPITAL I;00BLACK-LETTER CAPITAL I;00SCRIPT CAPITAL L;07SMALL L
00L B BAR SYMBOL;00DOUBLE-STRUCK CAPITAL N;00NUMERO SIGN;00SOUND RECORDING COPYRIGHT
01CRIPT CAPITAL P;00DOUBLE-STRUCK CAPITAL P;22Q;00SCRIPT CAPITAL R;00BLACK-LETTER CAPITAL R
00DOUBLE-STRUCK CAPITAL R;00PRESCRIPTION TAKE;00RESPONSE;00SERVICE MARK;00TELEPHONE SIGN
01RADE MARK SIGN;00VERSICLE;00DOUBLE-STRUCK CAPITAL Z;00OUNCE SIGN;01HM SIGN;00INVERTED OHM SIGN
00BLACK-LETTER CAPITAL Z;00TURNED GREEK SMALL LETTER IOTA;00KELVIN SIGN;00ANGSTROM SIGN
00SCRIPT CAPITAL B;00BLACK-LETTER CAPITAL C;00ESTIMATED SYMBOL;00SCRIPT SMALL E;07CAPITAL E;15F
00TURNED CAPITAL F;00SCRIPT CAPITAL M;07SMALL O;00ALEF SYMBOL;00BET SYMBOL;00GIMEL SYMBOL
00DALET SYMBOL;00INFORMATION SOURCE;00ROTATED CAPITAL Q;00FACSIMILE SIGN;00DOUBLE-STRUCK SMALL PI
20GAMMA;14CAPITAL GAMMA;22PI;14N-ARY SUMMATION;00TURNED SANS-SERIF CAPITAL G;26L
00REVERSED SANS-SERIF CAPITAL L;00TURNED SANS-SERIF CAPITAL Y;00DOUBLE-STRUCK ITALIC CAPITAL D
21SMALL D;27E;27I;27J;00PROPERTY LINE;00TURNED AMPERSAND;00PER SIGN;00AKTIESELSKAB
00TURNED SMALL F;00SYMBOL FOR SAMARITAN SOURCE;00VULGAR FRACTION ONE SEVENTH;20NINTH;20TENTH
21HIRD;16TWO THIRDS;16ONE FIFTH;16TWO FIFTHS;17HREE FIFTHS;16FOUR FIFTHS;16ONE SIXTH;16FIVE SIXTHS
16ONE EIGHTH;16THREE EIGHTHS;16FIVE EIGHTHS;16SEVEN EIGHTHS;00FRACTION NUMERATOR ONE
00ROMAN NUMERAL ONE;14TWO;15HREE;14FOUR;15IVE;14SIX;15EVEN;14EIGHT;14NINE;14TEN;14ELEVEN;14TWELVE
14FIFTY;14ONE HUNDRED;14FIVE HUNDRED;14ONE THOUSAND;00SMALL ROMAN NUMERAL ONE;20TWO;21HREE;20FOUR
21IVE;20SIX;21EVEN;20EIGHT;20NINE;20TEN;20ELEVEN;20TWELVE;20FIFTY;20ONE HUNDRED;20FIVE HUNDRED
20ONE THOUSAND;00ROMAN NUMERAL ONE THOUSAND C D;14FIVE THOUSAND;14TEN THOUSAND
14REVERSED ONE HUNDRED;00LATIN SMALL LETTER REVERSED C;00ROMAN NUMERAL SIX LATE FORM
14FIFTY EARLY FORM;20THOUSAND;14ONE HUNDRED THOUSAND;00VULGAR FRACTION ZERO THIRDS
00TURNED DIGIT TWO;14HREE;+2190;00LEFTWARDS ARROW;00UPWARDS ARROW;00RIGHTWARDS ARROW
00DOWNWARDS ARROW;00LEFT RIGHT ARROW;00UP DOWN ARROW;00NORTH WEST ARROW;06EAST ARROW
00SOUTH EAST ARROW;06WEST ARROW;00LEFTWARDS ARROW WITH STROKE;00RIGHTWARDS ARROW WITH STROKE
00LEFTWARDS WAVE ARROW;00RIGHTWARDS WAVE ARROW;00LEFTWARDS TWO HEADED ARROW
00UPWARDS TWO HEADED ARROW;00RIGHTWARDS TWO HEADED ARROW;00DOWNWARDS TWO HEADED ARROW
00LEFTWARDS ARROW WITH TAIL;00RIGHTWARDS ARROW WITH TAIL;00LEFTWARDS ARROW FROM BAR
00UPWARDS ARROW FROM BAR;00RIGHTWARDS ARROW FROM BAR;00DOWNWARDS ARROW FROM BAR
00UP DOWN ARROW WITH BASE;00LEFTWARDS ARROW WITH HOOK;00RIGHTWARDS ARROW WITH HOOK
00LEFTWARDS ARROW WITH LOOP;00RIGHTWARDS ARROW WITH LOOP;00LEFT RIGHT WAVE ARROW
11ARROW WITH STROKE;00DOWNWARDS ZIGZAG ARROW;00UPWARDS ARROW WITH TIP LEFTWARDS;23RIGHTWARDS
00DOWNWARDS ARROW WITH TIP LEFTWARDS;25RIGHTWARDS;00RIGHTWARDS ARROW WITH CORNER DOWNWARDS
00DOWNWARDS ARROW WITH CORNER LEFTWARDS;00ANTICLOCKWISE TOP SEMICIRCLE ARROW
00CLOCKWISE TOP SEMICIRCLE ARROW;00NORTH WEST ARROW TO LONG BAR
00LEFTWARDS ARROW TO BAR OVER RIGHTWARDS ARROW TO BAR;00ANTICLOCKWISE OPEN CIRCLE ARROW
00CLOCKWISE OPEN CIRCLE ARROW;00LEFTWARDS HARPOON WITH BARB UPWARDS;28DOWNWARDS
00UPWARDS HARPOON WITH BARB RIGHTWARDS;26LEFTWARDS;00RIGHTWARDS HARPOON WITH BARB UPWARDS
29DOWNWARDS;00DOWNWARDS HARPOON WITH BARB RIGHTWARDS;28LEFTWARDS
00RIGHTWARDS ARROW OVER LEFTWARDS ARROW;00UPWARDS ARROW LEFTWARDS OF DOWNWARDS ARROW
00LEFTWARDS ARROW OVER RIGHTWARDS ARROW;10PAIRED ARROWS;00UPWARDS PAIRED ARROWS
00RIGHTWARDS PAIRED ARROWS;00DOWNWARDS PAIRED ARROWS;00LEFTWARDS HARPOON OVER RIGHTWARDS HARPOON
00RIGHTWARDS HARPOON OVER LEFTWARDS HARPOON;00LEFTWARDS DOUBLE ARROW WITH STROKE
04 RIGHT DOUBLE ARROW WITH STROKE;00RIGHTWARDS DOUBLE ARROW WITH STROKE;00LEFTWARDS DOUBLE ARROW
00UPWARDS DOUBLE ARROW;00RIGHTWARDS DOUBLE ARROW;00DOWNWARDS DOUBLE ARROW
00LEFT RIGHT DOUBLE ARROW;00UP DOWN DOUBLE ARROW;00NORTH WEST DOUBLE ARROW;06EAST DOUBLE ARROW
00SOUTH EAST DOUBLE ARROW;06WEST DOUBLE ARROW;00LEFTWARDS TRIPLE ARROW;00RIGHTWARDS TRIPLE ARROW
00LEFTWARDS SQUIGGLE ARROW;00RIGHTWARDS SQUIGGLE ARROW;00UPWARDS ARROW WITH DOUBLE STROKE
00DOWNWARDS ARROW WITH DOUBLE STROKE;00LEFTWARDS DASHED ARROW;00UPWARDS DASHED ARROW
00RIGHTWARDS DASHED ARROW;00DOWNWARDS DASHED ARROW;00LEFTWARDS ARROW TO BAR
00RIGHTWARDS ARROW TO BAR;00LEFTWARDS WHITE ARROW;00UPWARDS WHITE ARROW;00RIGHTWARDS WHITE ARROW
00DOWNWARDS WHITE ARROW;00UPWARDS WHITE ARROW FROM BAR;20ON PEDESTAL;31 WITH HORIZONTAL BAR
37VERTICAL BAR;14DOUBLE ARROW;26 ON PEDESTAL;00RIGHTWARDS WHITE ARROW FROM WALL
00NORTH WEST ARROW TO CORNER;00SOUTH EAST ARROW TO CORNER;00UP DOWN WHITE ARROW
00RIGHT ARROW WITH SMALL CIRCLE;00DOWNWARDS ARROW LEFTWARDS OF UPWARDS ARROW
00THREE RIGHTWARDS ARROWS;00LEFTWARDS ARROW WITH VERTICAL STROKE
00RIGHTWARDS ARROW WITH VERTICAL STROKE;00LEFT RIGHT ARROW WITH VERTICAL STROKE
04WARDS ARROW WITH DOUBLE VERTICAL STROKE;00RIGHTWARDS ARROW WITH DOUBLE VERTICAL STROKE
00LEFT RIGHT ARROW WITH DOUBLE VERTICAL STROKE;04WARDS OPEN-HEADED ARROW
00RIGHTWARDS OPEN-HEADED ARROW;00LEFT RIGHT OPEN-HEADED ARROW;00FOR ALL;00COMPLEMENT
00PARTIAL DIFFERENTIAL;00THERE EXISTS;06DOES NOT EXIST;00EMPTY SET;00INCREMENT;00NABLA
00ELEMENT OF;00NOT AN ELEMENT OF;00SMALL ELEMENT OF;00CONTAINS AS MEMBER
00DOES NOT CONTAIN AS MEMBER;00SMALL CONTAINS AS MEMBER;00END OF PROOF;00N-ARY PRODUCT;06COPRODUCT
06SUMMATION;00MINUS SIGN;05-OR-PLUS SIGN;00DOT PLUS;01IVISION SLASH;00SET MINUS
00ASTERISK OPERATOR;00RING OPERATOR;00BULLET OPERATOR;00SQUARE ROOT;00CUBE ROOT;00FOURTH ROOT
00PROPORTIONAL TO;00INFINITY;00RIGHT ANGLE;00ANGLE;00MEASURED ANGLE;00SPHERICAL ANGLE;00DIVIDES
01OES NOT DIVIDE;00PARALLEL TO;00NOT PARALLEL TO;00LOGICAL AND;08OR;00INTERSECTION;00UNION
00INTEGRAL;00DOUBLE INTEGRAL;00TRIPLE INTEGRAL;00CONTOUR INTEGRAL;00SURFACE INTEGRAL
00VOLUME INTEGRAL;00CLOCKWISE INTEGRAL;10CONTOUR INTEGRAL;00ANTICLOCKWISE CONTOUR INTEGRAL
00THEREFORE;00BECAUSE;00RATIO;00PROPORTION;00DOT MINUS;00EXCESS;00GEOMETRIC PROPORTION
00HOMOTHETIC;00TILDE OPERATOR;00REVERSED TILDE;00INVERTED LAZY S;00SINE WAVE;00WREATH PRODUCT
00NOT TILDE;00MINUS TILDE;00ASYMPTOTICALLY EQUAL TO;00NOT ASYMPTOTICALLY EQUAL TO
00APPROXIMATELY EQUAL TO;14BUT NOT ACTUALLY EQUAL TO;00NEITHER APPROXIMATELY NOR ACTUALLY EQUAL TO
00ALMOST EQUAL TO;00NOT ALMOST EQUAL TO;00ALMOST EQUAL OR EQUAL TO;00TRIPLE TILDE;00ALL EQUAL TO
00EQUIVALENT TO;00GEOMETRICALLY EQUIVALENT TO;00DIFFERENCE BETWEEN;00APPROACHES THE LIMIT
00GEOMETRICALLY EQUAL TO;00APPROXIMATELY EQUAL TO OR THE IMAGE OF
00IMAGE OF OR APPROXIMATELY EQUAL TO;00COLON EQUALS;00EQUALS COLON;00RING IN EQUAL TO;05EQUAL TO
00CORRESPONDS TO;00ESTIMATES;01QUIANGULAR TO;00STAR EQUALS;00DELTA EQUAL TO
00EQUAL TO BY DEFINITION;00MEASURED BY;00QUESTIONED EQUAL TO;00NOT EQUAL TO;00IDENTICAL TO
00NOT IDENTICAL TO;00STRICTLY EQUIVALENT TO;00LESS-THAN OR EQUAL TO;00GREATER-THAN OR EQUAL TO
00LESS-THAN OVER EQUAL TO;00GREATER-THAN OVER EQUAL TO;00LESS-THAN BUT NOT EQUAL TO
00GREATER-THAN BUT NOT EQUAL TO;00MUCH LESS-THAN;05GREATER-THAN;00BETWEEN;00NOT EQUIVALENT TO
04LESS-THAN;04GREATER-THAN;01EITHER LESS-THAN NOR EQUAL TO;08GREATER-THAN NOR EQUAL TO
00LESS-THAN OR EQUIVALENT TO;00GREATER-THAN OR EQUIVALENT TO;00NEITHER LESS-THAN NOR EQUIVALENT TO
08GREATER-THAN NOR EQUIVALENT TO;00LESS-THAN OR GREATER-THAN;00GREATER-THAN OR LESS-THAN
00NEITHER LESS-THAN NOR GREATER-THAN;08GREATER-THAN NOR LESS-THAN;00PRECEDES;00SUCCEEDS
00PRECEDES OR EQUAL TO;00SUCCEEDS OR EQUAL TO;00PRECEDES OR EQUIVALENT TO
00SUCCEEDS OR EQUIVALENT TO;00DOES NOT PRECEDE;09SUCCEED;00SUBSET OF;02PERSET OF;00NOT A SUBSET OF
08PERSET OF;00SUBSET OF OR EQUAL TO;02PERSET OF OR EQUAL TO;00NEITHER A SUBSET OF NOR EQUAL TO
12PERSET OF NOR EQUAL TO;00SUBSET OF WITH NOT EQUAL TO;02PERSET OF WITH NOT EQUAL TO;00MULTISET
08 MULTIPLICATION;09UNION;00SQUARE IMAGE OF;07ORIGINAL OF;07IMAGE OF OR EQUAL TO
07ORIGINAL OF OR EQUAL TO;07CAP;08UP;00CIRCLED PLUS;08MINUS;08TIMES;08DIVISION SLASH;09OT OPERATOR
08RING OPERATOR;08ASTERISK OPERATOR;08EQUALS;08DASH;00SQUARED PLUS;08MINUS;08TIMES;08DOT OPERATOR
00RIGHT TACK;00LEFT TACK;00DOWN TACK;00UP TACK;00ASSERTION;00MODELS;00TRUE;00FORCES
00TRIPLE VERTICAL BAR RIGHT TURNSTILE;00DOUBLE VERTICAL BAR DOUBLE RIGHT TURNSTILE;02ES NOT PROVE
00NOT TRUE;00DOES NOT FORCE;00NEGATED DOUBLE VERTICAL BAR DOUBLE RIGHT TURNSTILE
00PRECEDES UNDER RELATION;00SUCCEEDS UNDER RELATION;00NORMAL SUBGROUP OF
00CONTAINS AS NORMAL SUBGROUP;00NORMAL SUBGROUP OF OR EQUAL TO
00CONTAINS AS NORMAL SUBGROUP OR EQUAL TO;00ORIGINAL OF;00IMAGE OF;00MULTIMAP
00HERMITIAN CONJUGATE MATRIX;00INTERCALATE;00XOR;00NAND;01OR;00RIGHT ANGLE WITH ARC;06TRIANGLE
00N-ARY LOGICAL AND;14OR;06INTERSECTION;06UNION;00DIAMOND OPERATOR;01OT OPERATOR;00STAR OPERATOR
00DIVISION TIMES;00BOWTIE;00LEFT NORMAL FACTOR SEMIDIRECT PRODUCT
00RIGHT NORMAL FACTOR SEMIDIRECT PRODUCT;00LEFT SEMIDIRECT PRODUCT;00RIGHT SEMIDIRECT PRODUCT
01EVERSED TILDE EQUALS;00CURLY LOGICAL OR;14AND;00DOUBLE SUBSET;09PERSET;07INTERSECTION;07UNION
00PITCHFORK;00EQUAL AND PARALLEL TO;00LESS-THAN WITH DOT;00GREATER-THAN WITH DOT
00VERY MUCH LESS-THAN;10GREATER-THAN;00LESS-THAN EQUAL TO OR GREATER-THAN
00GREATER-THAN EQUAL TO OR LESS-THAN;00EQUAL TO OR LESS-THAN;12GREATER-THAN;12PRECEDES;12SUCCEEDS
00DOES NOT PRECEDE OR EQUAL;09SUCCEED OR EQUAL;00NOT SQUARE IMAGE OF OR EQUAL TO
11ORIGINAL OF OR EQUAL TO;00SQUARE IMAGE OF OR NOT EQUAL TO;07ORIGINAL OF OR NOT EQUAL TO
00LESS-THAN BUT NOT EQUIVALENT TO;00GREATER-THAN BUT NOT EQUIVALENT TO
00PRECEDES BUT NOT EQUIVALENT TO;00SUCCEEDS BUT NOT EQUIVALENT TO;00NOT NORMAL SUBGROUP OF
00DOES NOT CONTAIN AS NORMAL SUBGROUP;00NOT NORMAL SUBGROUP OF OR EQUAL TO
00DOES NOT CONTAIN AS NORMAL SUBGROUP OR EQUAL;00VERTICAL ELLIPSIS;00MIDLINE HORIZONTAL ELLIPSIS
00UP RIGHT DIAGONAL ELLIPSIS;00DOWN RIGHT DIAGONAL ELLIPSIS
00ELEMENT OF WITH LONG HORIZONTAL STROKE;16VERTICAL BAR AT END OF HORIZONTAL STROKE
00SMALL ELEMENT OF WITH VERTICAL BAR AT END OF HORIZONTAL STROKE;00ELEMENT OF WITH DOT ABOVE
16OVERBAR;00SMALL ELEMENT OF WITH OVERBAR;00ELEMENT OF WITH UNDERBAR;16TWO HORIZONTAL STROKES
00CONTAINS WITH LONG HORIZONTAL STROKE;14VERTICAL BAR AT END OF HORIZONTAL STROKE
00SMALL CONTAINS WITH VERTICAL BAR AT END OF HORIZONTAL STROKE;00CONTAINS WITH OVERBAR
00SMALL CONTAINS WITH OVERBAR;00Z NOTATION BAG MEMBERSHIP;00DIAMETER SIGN;00ELECTRIC ARROW;00HOUSE
00UP ARROWHEAD;00DOWN ARROWHEAD;00PROJECTIVE;01ERSPECTIVE;00WAVY LINE;00LEFT CEILING
00RIGHT CEILING;00LEFT FLOOR;00RIGHT FLOOR;00BOTTOM RIGHT CROP;07LEFT CROP;00TOP RIGHT CROP
04LEFT CROP;00REVERSED NOT SIGN;00SQUARE LOZENGE;00ARC;00SEGMENT;02CTOR;00TELEPHONE RECORDER
00POSITION INDICATOR;00VIEWDATA SQUARE;00PLACE OF INTEREST SIGN;00TURNED NOT SIGN;00WATCH
00HOURGLASS;00TOP LEFT CORNER;04RIGHT CORNER;00BOTTOM LEFT CORNER;07RIGHT CORNER
00TOP HALF INTEGRAL;00BOTTOM HALF INTEGRAL;00FROWN;00SMILE
00UP ARROWHEAD BETWEEN TWO HORIZONTAL BARS;00OPTION KEY;00ERASE TO THE RIGHT
00X IN A RECTANGLE BOX;00KEYBOARD;00LEFT-POINTING ANGLE BRACKET;00RIGHT-POINTING ANGLE BRACKET
00ERASE TO THE LEFT;00BENZENE RING;00CYLINDRICITY;00ALL AROUND-PROFILE;00SYMMETRY;00TOTAL RUNOUT
00DIMENSION ORIGIN;00CONICAL TAPER;00SLOPE;00COUNTERBORE;07SINK;00APL FUNCTIONAL SYMBOL I-BEAM
22SQUISH QUAD;22QUAD EQUAL;27DIVIDE;29AMOND;27JOT;27CIRCLE;22CIRCLE STILE;29JOT;22SLASH BAR
22BACKSLASH BAR;22QUAD SLASH;27BACKSLASH;27LESS-THAN;27GREATER-THAN;22LEFTWARDS VANE
22RIGHTWARDS VANE;22QUAD LEFTWARDS ARROW;27RIGHTWARDS ARROW;22CIRCLE BACKSLASH
22DOWN TACK UNDERBAR;23ELTA STILE;22QUAD DOWN CARET;28ELTA;22DOWN TACK JOT;22UPWARDS VANE
22QUAD UPWARDS ARROW;22UP TACK OVERBAR;22DEL STILE;22QUAD UP CARET;27DEL;22UP TACK JOT
22DOWNWARDS VANE;22QUAD DOWNWARDS ARROW;24OTE UNDERBAR;22DELTA UNDERBAR;23IAMOND UNDERBAR
22JOT UNDERBAR;22CIRCLE UNDERBAR;22UP SHOE JOT;22QUOTE QUAD;22CIRCLE STAR;22QUAD COLON
22UP TACK DIAERESIS;22DEL DIAERESIS;22STAR DIAERESIS;22JOT DIAERESIS;22CIRCLE DIAERESIS
22DOWN SHOE STILE;22LEFT SHOE STILE;22TILDE DIAERESIS;22GREATER-THAN DIAERESIS;22COMMA BAR
22DEL TILDE;22ZILDE;22STILE TILDE;23EMICOLON UNDERBAR;22QUAD NOT EQUAL;27QUESTION
22DOWN CARET TILDE;22UP CARET TILDE;22IOTA;22RHO;22OMEGA;22ALPHA UNDERBAR;22EPSILON UNDERBAR
22IOTA UNDERBAR;22OMEGA UNDERBAR;22ALPHA;00NOT CHECK MARK
00RIGHT ANGLE WITH DOWNWARDS ZIGZAG ARROW;00SHOULDERED OPEN BOX;00BELL SYMBOL
00VERTICAL LINE WITH MIDDLE DOT;00INSERTION SYMBOL;00CONTINUOUS UNDERLINE SYMBOL
00DISCONTINUOUS UNDERLINE SYMBOL;00EMPHASIS SYMBOL;00COMPOSITION SYMBOL
00WHITE SQUARE WITH CENTRE VERTICAL LINE;00ENTER SYMBOL;00ALTERNATIVE KEY SYMBOL;00HELM SYMBOL
00CIRCLED HORIZONTAL BAR WITH NOTCH;08TRIANGLE DOWN;00BROKEN CIRCLE WITH NORTHWEST ARROW
00UNDO SYMBOL;00MONOSTABLE SYMBOL;00HYSTERESIS SYMBOL;00OPEN-CIRCUIT-OUTPUT H-TYPE SYMBOL
20L-TYPE SYMBOL;00PASSIVE-PULL-DOWN-OUTPUT SYMBOL;13UP-OUTPUT SYMBOL
00DIRECT CURRENT SYMBOL FORM TWO;00SOFTWARE-FUNCTION SYMBOL;00APL FUNCTIONAL SYMBOL QUAD
00DECIMAL SEPARATOR KEY SYMBOL;00PREVIOUS PAGE;00NEXT PAGE;00PRINT SCREEN SYMBOL
00CLEAR SCREEN SYMBOL;00LEFT PARENTHESIS UPPER HOOK;17EXTENSION;17LOWER HOOK
00RIGHT PARENTHESIS UPPER HOOK;18EXTENSION;18LOWER HOOK;00LEFT SQUARE BRACKET UPPER CORNER
20EXTENSION;20LOWER CORNER;00RIGHT SQUARE BRACKET UPPER CORNER;21EXTENSION;21LOWER CORNER
00LEFT CURLY BRACKET UPPER HOOK;19MIDDLE PIECE;19LOWER HOOK;00CURLY BRACKET EXTENSION
00RIGHT CURLY BRACKET UPPER HOOK;20MIDDLE PIECE;20LOWER HOOK;00INTEGRAL EXTENSION
00HORIZONTAL LINE EXTENSION;00UPPER LEFT OR LOWER RIGHT CURLY BRACKET SECTION
06RIGHT OR LOWER LEFT CURLY BRACKET SECTION;00SUMMATION TOP;10BOTTOM;00TOP SQUARE BRACKET
00BOTTOM SQUARE BRACKET;21 OVER TOP SQUARE BRACKET;00RADICAL SYMBOL BOTTOM
00LEFT VERTICAL BOX LINE;00RIGHT VERTICAL BOX LINE;00HORIZONTAL SCAN LINE-1;213;217;219
00DENTISTRY SYMBOL LIGHT VERTICAL AND TOP RIGHT;36BOTTOM RIGHT;32WITH CIRCLE
23DOWN AND HORIZONTAL WITH CIRCLE;23UP AND HORIZONTAL WITH CIRCLE;23VERTICAL WITH TRIANGLE
23DOWN AND HORIZONTAL WITH TRIANGLE;23UP AND HORIZONTAL WITH TRIANGLE;23VERTICAL AND WAVE
23DOWN AND HORIZONTAL WITH WAVE;23UP AND HORIZONTAL WITH WAVE;23DOWN AND HORIZONTAL
23UP AND HORIZONTAL;23VERTICAL AND TOP LEFT;36BOTTOM LEFT;00SQUARE FOOT;00RETURN SYMBOL
00EJECT SYMBOL;00VERTICAL LINE EXTENSION;00METRICAL BREVE;09LONG OVER SHORT;09SHORT OVER LONG
09LONG OVER TWO SHORTS;09TWO SHORTS OVER LONG;20JOINED;10RISEME;10ETRASEME;09PENTASEME
00EARTH GROUND;00FUSE;00TOP PARENTHESIS;00BOTTOM PARENTHESIS;00TOP CURLY BRACKET
00BOTTOM CURLY BRACKET;00TOP TORTOISE SHELL BRACKET;00BOTTOM TORTOISE SHELL BRACKET
00WHITE TRAPEZIUM;00BENZENE RING WITH CIRCLE;00STRAIGHTNESS;00FLATNESS;00AC CURRENT
00ELECTRICAL INTERSECTION;00DECIMAL EXPONENT SYMBOL;00BLACK RIGHT-POINTING DOUBLE TRIANGLE
06LEFT-POINTING DOUBLE TRIANGLE;06UP-POINTING DOUBLE TRIANGLE;06DOWN-POINTING DOUBLE TRIANGLE
06RIGHT-POINTING DOUBLE TRIANGLE WITH VERTICAL BAR
06LEFT-POINTING DOUBLE TRIANGLE WITH VERTICAL BAR
06RIGHT-POINTING TRIANGLE WITH DOUBLE VERTICAL BAR;00ALARM CLOCK;00STOPWATCH;00TIMER CLOCK
00HOURGLASS WITH FLOWING SAND;00BLACK MEDIUM LEFT-POINTING TRIANGLE;13RIGHT-POINTING TRIANGLE
13UP-POINTING TRIANGLE;13DOWN-POINTING TRIANGLE;00DOUBLE VERTICAL BAR;00BLACK SQUARE FOR STOP
06CIRCLE FOR RECORD;00POWER SYMBOL;06ON-OFF SYMBOL;08 SYMBOL;06SLEEP SYMBOL;00OBSERVER EYE SYMBOL
00SYMBOL FOR NULL;11START OF HEADING;20TEXT;11END OF TEXT;19RANSMISSION;13QUIRY;11ACKNOWLEDGE
11BELL;12ACKSPACE;11HORIZONTAL TABULATION;11LINE FEED;11VERTICAL TABULATION;11FORM FEED
11CARRIAGE RETURN;11SHIFT OUT;17IN;11DATA LINK ESCAPE;12EVICE CONTROL ONE;26TWO;27HREE;26FOUR
11NEGATIVE ACKNOWLEDGE;11SYNCHRONOUS IDLE;11END OF TRANSMISSION BLOCK;11CANCEL;11END OF MEDIUM
11SUBSTITUTE;11ESCAPE;11FILE SEPARATOR;11GROUP SEPARATOR;11RECORD SEPARATOR;11UNIT SEPARATOR
11SPACE;11DELETE;00BLANK SYMBOL;00OPEN BOX;00SYMBOL FOR NEWLINE;11DELETE FORM TWO
11SUBSTITUTE FORM TWO;+2440;00OCR HOOK;04CHAIR;04FORK;04INVERTED FORK;04BELT BUCKLE;05OW TIE
05RANCH BANK IDENTIFICATION;04AMOUNT OF CHECK;04DASH;04CUSTOMER ACCOUNT NUMBER;04DOUBLE BACKSLASH
+2460;00CIRCLED DIGIT ONE;14TWO;15HREE;14FOUR;15IVE;14SIX;15EVEN;14EIGHT;14NINE;08NUMBER TEN
15ELEVEN;15TWELVE;16HIRTEEN;15FOURTEEN;16IFTEEN;15SIXTEEN;16EVENTEEN;15EIGHTEEN;15NINETEEN
15TWENTY;00PARENTHESIZED DIGIT ONE;20TWO;21HREE;20FOUR;21IVE;20SIX;21EVEN;20EIGHT;20NINE
14NUMBER TEN;21ELEVEN;21TWELVE;22HIRTEEN;21FOURTEEN;22IFTEEN;21SIXTEEN;22EVENTEEN;21EIGHTEEN
21NINETEEN;21TWENTY;00DIGIT ONE FULL STOP;06TWO FULL STOP;07HREE FULL STOP;06FOUR FULL STOP
07IVE FULL STOP;06SIX FULL STOP;07EVEN FULL STOP;06EIGHT FULL STOP;06NINE FULL STOP
00NUMBER TEN FULL STOP;07ELEVEN FULL STOP;07TWELVE FULL STOP;08HIRTEEN FULL STOP
07FOURTEEN FULL STOP;08IFTEEN FULL STOP;07SIXTEEN FULL STOP;08EVENTEEN FULL STOP
07EIGHTEEN FULL STOP;07NINETEEN FULL STOP;07TWENTY FULL STOP;00PARENTHESIZED LATIN SMALL LETTER A
33B;33C;33D;33E;33F;33G;33H;33I;33J;33K;33L;33M;33N;33O;33P;33Q;33R;33S;33T;33U;33V;33W;33X;33Y
33Z;00CIRCLED LATIN CAPITAL LETTER A;29B;29C;29D;29E;29F;29G;29H;29I;29J;29K;29L;29M;29N;29O;29P
29Q;29R;29S;29T;29U;29V;29W;29X;29Y;29Z;14SMALL LETTER A;27B;27C;27D;27E;27F;27G;27H;27I;27J;27K
27L;27M;27N;27O;27P;27Q;27R;27S;27T;27U;27V;27W;27X;27Y;27Z;08DIGIT ZERO
00NEGATIVE CIRCLED NUMBER ELEVEN;24TWELVE;25HIRTEEN;24FOURTEEN;25IFTEEN;24SIXTEEN;25EVENTEEN
24EIGHTEEN;24NINETEEN;24TWENTY;00DOUBLE CIRCLED DIGIT ONE;21TWO;22HREE;21FOUR;22IVE;21SIX;22EVEN
21EIGHT;21NINE;15NUMBER TEN;00NEGATIVE CIRCLED DIGIT ZERO;00BOX DRAWINGS LIGHT HORIZONTAL
13HEAVY HORIZONTAL;13LIGHT VERTICAL"

end EachSubject.Text.CharacterName

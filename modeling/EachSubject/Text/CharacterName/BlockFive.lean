/-!
# Names of characters from U+101D0 on

The names are written as `CharacterName` reads them.
-/

namespace EachSubject.Text.CharacterName

/-- The names of the characters from U+101D0 on. -/
def blockFive : String := "+101D0;00PHAISTOS DISC SIGN PEDESTRIAN;20LUMED HEAD;19TATTOOED HEAD;19CAPTIVE;20HILD;19WOMAN
19HELMET;19GAUNTLET;19TIARA;19ARROW;19BOW;19SHIELD;19CLUB;19MANACLES;21TTOCK;19SAW;19LID
19BOOMERANG;19CARPENTRY PLANE;19DOLIUM;19COMB;19SLING;19COLUMN;19BEEHIVE;19SHIP;19HORN;20IDE
19BULLS LEG;19CAT;19RAM;19EAGLE;19DOVE;19TUNNY;19BEE;19PLANE TREE;19VINE;19PAPYRUS;19ROSETTE
19LILY;19OX BACK;19FLUTE;19GRATER;19STRAINER;20MALL AXE;19WAVY BAND;19COMBINING OBLIQUE STROKE
+10280;00LYCIAN LETTER A;14E;14B;15H;14G;14D;14I;14W;14Z;14TH;14J;14K;14Q;14L;14M;14N;14MM;14NN
14U;14P;14KK;14R;14S;14T;15T;14AN;14EN;14H;14X;+102A0;00CARIAN LETTER A;14P2;14D;14L;14UUU;14R
14LD;14A2;14Q;14B;14M;14O;14D2;14T;14SH;162;15;14C-18;14U;14NN;14X;14N;14TT2;14P;14SS;14I;14E
14UUUU;14K;152;14ND;14UU;14G;152;14ST;162;14NG;14II;14C-39;14TT;14UUU2;14RR;14MB;162;163;164;14LD2
14E2;14UUU3;+102E0;01OPTIC EPACT THOUSANDS MARK;13DIGIT ONE;19TWO;20HREE;19FOUR;20IVE;19SIX;20EVEN
19EIGHT;19NINE;13NUMBER TEN;21WENTY;21HIRTY;20FORTY;21IFTY;20SIXTY;21EVENTY;20EIGHTY;20NINETY
20ONE HUNDRED;20TWO HUNDRED;21HREE HUNDRED;20FOUR HUNDRED;21IVE HUNDRED;20SIX HUNDRED
21EVEN HUNDRED;20EIGHT HUNDRED;20NINE HUNDRED;+10300;00OLD ITALIC LETTER A;18BE;18KE;18DE;18E;18VE
18ZE;18HE;18THE;18I;18KA;18EL;19M;19N;19SH;18O;18PE;18SHE;18KU;18ER;19S;18TE;18U;18EKS;18PHE;18KHE
18EF;19RS;18CHE;18II;18UU;18ESS;11NUMERAL ONE;19FIVE;19TEN;19FIFTY;+1032D;11LETTER YE
18NORTHERN TSE;18SOUTHERN TSE;00GOTHIC LETTER AHSA;14BAIRKAN;14GIBA;14DAGS;14AIHVUS;14QAIRTHRA
14IUJA;14HAGL;14THIUTH;14EIS;14KUSMA;14LAGUS;14MANNA;14NAUTHS;14JER;14URUS;14PAIRTHRA;14NINETY
14RAIDA;14SAUIL;14TEIWS;14WINJA;14FAIHU;14IGGWS;14HWAIR;14OTHAL;14NINE HUNDRED;+10350
00OLD PERMIC LETTER AN;18BUR;18GAI;18DOI;18E;18ZHOI;18DZHOI;18ZATA;18DZITA;18I;18KOKE;18LEI
18MENOE;18NENOE;18VOOI;18PEEI;18REI;18SII;18TAI;18U;18CHERY;18SHOOI;20CHOOI;18YRY;19ERU;18O;19O
18EF;18HA;18TSIU;18VER;18YER;21I;19AT;18IE;18YU;19A;18IA;00COMBINING OLD PERMIC LETTER AN;28DOI
28ZATA;28NENOE;28SII;+10380;00UGARITIC LETTER ALPA;16BETA;16GAMLA;16KHA;16DELTA;16HO;16WO;16ZETA
16HOTA;16TET;16YOD;16KAF;16SHIN;16LAMDA;16MEM;16DHAL;16NUN;16ZU;16SAMKA;16AIN;16PU;16SADE;16QOPA
16RASHA;16THANNA;16GHAIN;16TO;16I;16U;16SSU;+1039F;09WORD DIVIDER;00OLD PERSIAN SIGN A;17I;17U
17KA;18U;17GA;18U;17XA;17CA;17JA;18I;17TA;18U;17DA;18I;18U;17THA;17PA;17BA;17FA;17NA;18U;17MA;18I
18U;17YA;17VA;18I;17RA;18U;17LA;17SA;17ZA;17SHA;18SA;17HA;+103C8;17AURAMAZDAA;27-2;27HA
17XSHAAYATHIYA;17DAHYAAUSH;26-2;17BAGA;18UUMISH;12WORD DIVIDER;12NUMBER ONE;19TWO;20EN;20WENTY
19HUNDRED;+10400;00DESERET CAPITAL LETTER LONG I;28E;28A;29H;28O;29O;23SHORT I;29E;29A;30H;29O;30O
23AY;23OW;23WU;23YEE;23H;23PEE;23BEE;23TEE;23DEE;23CHEE;23JEE;23KAY;23GAY;23EF;23VEE;23ETH;23THEE
23ES;23ZEE;23ESH;23ZHEE;23ER;24L;24M;24N;25G;23OI;23EW;08SMALL LETTER LONG I;26E;26A;27H;26O;27O
21SHORT I;27E;27A;28H;27O;28O;21AY;21OW;21WU;21YEE;21H;21PEE;21BEE;21TEE;21DEE;21CHEE;21JEE;21KAY
21GAY;21EF;21VEE;21ETH;21THEE;21ES;21ZEE;21ESH;21ZHEE;21ER;22L;22M;22N;23G;21OI;21EW
00SHAVIAN LETTER PEEP;15TOT;15KICK;15FEE;15THIGH;15SO;16URE;15CHURCH;15YEA;15HUNG;15BIB;15DEAD
15GAG;15VOW;15THEY;15ZOO;15MEASURE;15JUDGE;15WOE;15HA-HA;15LOLL;15MIME;15IF;15EGG;15ASH;16DO;15ON
15WOOL;15OUT;15AH;15ROAR;15NUN;15EAT;15AGE;15ICE;15UP;15OAK;16OZE;16IL;15AWE;16RE;15OR;15AIR;15ERR
15ARRAY;15EAR;15IAN;15YEW;00OSMANYA LETTER ALEF;15BA;15TA;15JA;15XA;15KHA;15DEEL;15RA;15SA;16HIIN
15DHA;15CAYN;15GA;15FA;15QAAF;15KAAF;15LAAN;15MIIN;15NUUN;15WAW;15HA;15YA;15A;15E;15I;15O;15U;15AA
15EE;15OO;+104A0;08DIGIT ZERO;14ONE;14TWO;15HREE;14FOUR;15IVE;14SIX;15EVEN;14EIGHT;14NINE;+104B0
02AGE CAPITAL LETTER A;22I;23N;22H;21BRA;21CHA;21EHCHA;22;22IN;21HA;22YA;21I;21KA;21EHKA;21KYA
21LA;21MA;21NA;21O;22IN;21PA;21EHPA;21SA;22HA;21TA;21EHTA;21TSA;21EHTSA;21TSHA;21DHA;21U;21WA
21KHA;21GHA;21ZA;22HA;+104D8;06SMALL LETTER A;20I;21N;20H;19BRA;19CHA;19EHCHA;20;20IN;19HA;20YA
19I;19KA;19EHKA;19KYA;19LA;19MA;19NA;19O;20IN;19PA;19EHPA;19SA;20HA;19TA;19EHTA;19TSA;19EHTSA
19TSHA;19DHA;19U;19WA;19KHA;19GHA;19ZA;20HA;+10500;00ELBASAN LETTER A;15BE;15CE;16HE;15DE;15NDE
15DHE;15EI;16;15FE;15GE;16JE;15HE;15I;15JE;15KE;15LE;16LE;15ME;15NE;16A;16JE;15O;15PE;15QE;15RE
16RE;15SE;16HE;15TE;16HE;15U;15VE;15XE;15Y;15ZE;16HE;15GHE;17AMMA;15KHE;+10530
00CAUCASIAN ALBANIAN LETTER ALT;26BET;26GIM;26DAT;26EB;26ZARL;26EYN;26ZHIL;26TAS;26CHA;26YOWD
26ZHA;26IRB;26SHA;26LAN;26INYA;26XEYN;26DYAN;26CAR;26JHOX;26KAR;26LYIT;26HEYT;26QAY;26AOR;26CHOY
28I;27YAY;26MAQ;26QAR;26NOWC;26DZYAY;26SHAK;26JAYN;26ON;26TYAY;26FAM;26DZAY;26CHAT;26PEN;26GHEYS
26RAT;26SEYK;26VEYZ;26TIWR;26SHOY;26IWN;26CYAW;27AYN;26YAYD;26PIWR;26KIW;+1056F;19CITATION MARK
00VITHKUQI CAPITAL LETTER A;24BBE;25E;24CE;25HE;24DE;25HE;24EI;25;24FE;24GA;+1057C;24HA;25HA;24I
25JE;24JE;24KA;24LA;25LA;24ME;24NE;25JE;24O;24PE;24QA;24RE;+1058C;24SE;25HE;24TE;25HE;24U;24VE
24XE;+10594;24Y;24ZE;+10597;09SMALL LETTER A;22BBE;23E;22CE;23HE;22DE;23HE;22EI;23;22FE;22GA
+105A3;22HA;23HA;22I;23JE;22JE;22KA;22LA;23LA;22ME;22NE;23JE;22O;22PE;22QA;22RE;+105B3;22SE;23HE
22TE;23HE;22U;22VE;22XE;+105BB;22Y;22ZE;+10600;00LINEAR A SIGN AB001;182;183;184;185;186;187;188
189;1710;181;183;186;187;1720;181;19F;19M;182;19F;19M;183;19M;184;186;187;188;15028B;15B029;1730
181;184;187;188;189;1740;181;184;185;186;187;188;189;1750;181;183;184;185;186;187;188;189;1760;181
185;186;187;189;1770;183;184;186;187;188;189;1780;181;182;185;186;187;15100-102;15B118;1720;15120B
15B122;183;1731A;19B;15131C;15B164;1771;1780;188;1791;15301;172;173;174;175;176;177;178;179A;18B
18C;1610;171;172;173A;18B;18C;174;175;176;177;178;179;1620;171;172;173;174;175;176;177;178;179
1630;171;172;173;174;175;176;177;178;179;1640;171;172;173;174;175;176;177;178;179;1650;171;172;173
174;175;176;177;178;179;1660;171;172;173;174;175;176;177;178;179;1670;171;15400-VAS;171-VAS
172-VAS;173-VAS;174-VAS;175-VAS;176-VAS;177-VAS;178-VAS;179-VAS;1610-VAS;171-VAS;172-VAS;173-VAS
174-VAS;175-VAS;176-VAS;177-VAS;178-VAS;15501;172;173;174;175;176;178;179;1610;171;172;173;175;176
1620;171;173;174;175;176;177;178;179;1630;171;172;174;175;176;177;178;179;1640;171;172;175;177;178
179;1650;171;172;173;174;175;176;177;179;1663;174;175;176;178;179;1670;171;172;173;174;175;176;177
178;179;1680;171;172;173;174;175;176;177;178;179;1691;172;174;175;176;178;15600;171;172;173;174
176;178;179;1610;171;172;173;174;175;176;177;178;179;1620;171;172;173;174;176;177;178;179;1634;177
178;1640;172;173;174;175;176;178;179;1651;172;173;174;175;176;177;178;179;1660;171;172;173;174
+10740;15701 A;172 B;173 D;174 E;175 F;176 H;177 J;178 K;179 L;18-2 L2;193 L3;194 L4;196 L6;1610 W
171 X;172 Y;173 OMEGA;174 ABB;175 BB;177 DD;1626 EYYY;1632 JE;+10760;15800;171;172;173;174;175;176
177;+10780;00MODIFIER LETTER SMALL CAPITAL AA;17UPERSCRIPT TRIANGULAR COLON
28HALF TRIANGULAR COLON;17MALL AE;22CAPITAL B;22B WITH HOOK;+10787;22DZ DIGRAPH
32 WITH RETROFLEX HOOK;38CURL;23EZH DIGRAPH;23 WITH TAIL;29HOOK;33 AND TAIL;22REVERSED E
22CLOSED REVERSED OPEN E;22FENG DIGRAPH;22RAMS HORN;22CAPITAL G;22G WITH HOOK
22CAPITAL G WITH HOOK;22H WITH STROKE;22CAPITAL H;22HENG WITH HOOK
22DOTLESS J WITH STROKE AND HOOK;22LS DIGRAPH;23Z DIGRAPH;23 WITH BELT;22CAPITAL L WITH BELT
22L WITH RETROFLEX HOOK AND BELT;23EZH;26 WITH RETROFLEX HOOK;22TURNED Y;30 WITH BELT
22O WITH STROKE;22CAPITAL OE;23LOSED OMEGA;22Q;22TURNED R WITH LONG LEG;44 AND RETROFLEX HOOK
22R WITH TAIL;29FISHHOOK;22CAPITAL R;22TC DIGRAPH WITH CURL;23S DIGRAPH;32 WITH RETROFLEX HOOK
23ESH DIGRAPH;23 WITH RETROFLEX HOOK;22V WITH RIGHT HOOK;+107B2;22CAPITAL Y
16GLOTTAL STOP WITH STROKE;16REVERSED GLOTTAL STOP WITH STROKE;16BILABIAL CLICK;16DENTAL CLICK
16LATERAL CLICK;16ALVEOLAR CLICK;16RETROFLEX CLICK WITH RETROFLEX HOOK;16SMALL S WITH CURL;+10800
00CYPRIOT SYLLABLE A;17E;17I;17O;17U;17JA;+10808;18O;+1080A;17KA;18E;18I;18O;18U;17LA;18E;18I;18O
18U;17MA;18E;18I;18O;18U;17NA;18E;18I;18O;18U;17PA;18E;18I;18O;18U;17RA;18E;18I;18O;18U;17SA;18E
18I;18O;18U;17TA;18E;18I;18O;18U;17WA;18E;18I;18O;+10837;17XA;18E;+1083C;17ZA;+1083F;18O
00IMPERIAL ARAMAIC LETTER ALEPH;24BETH;24GIMEL;24DALETH;24HE;24WAW;24ZAYIN;24HETH;24TETH;24YODH
24KAPH;24LAMEDH;24MEM;24NUN;24SAMEKH;24AYIN;24PE;24SADHE;24QOPH;24RESH;24SHIN;24TAW;+10857
17SECTION SIGN;17NUMBER ONE;24TWO;25HREE;25EN;25WENTY;24ONE HUNDRED;28THOUSAND;24TEN THOUSAND
00PALMYRENE LETTER ALEPH;17BETH;17GIMEL;17DALETH;17HE;17WAW;17ZAYIN;17HETH;17TETH;17YODH;17KAPH
17LAMEDH;17MEM;17FINAL NUN;17NUN;17SAMEKH;17AYIN;17PE;17SADHE;17QOPH;17RESH;17SHIN;17TAW
12FT-POINTING FLEURON;10RIGHT-POINTING FLEURON;10NUMBER ONE;17TWO;18HREE;17FOUR;18IVE;17TEN
18WENTY;00NABATAEAN LETTER FINAL ALEPH;17ALEPH;17FINAL BETH;17BETH;17GIMEL;17DALETH;17FINAL HE
17HE;17WAW;17ZAYIN;17HETH;17TETH;17FINAL YODH;17YODH;17FINAL KAPH;17KAPH;17FINAL LAMEDH;17LAMEDH
17FINAL MEM;17MEM;17FINAL NUN;17NUN;17SAMEKH;17AYIN;17PE;17SADHE;17QOPH;17RESH;17FINAL SHIN;17SHIN
17TAW;+108A7;10NUMBER ONE;17TWO;18HREE;17FOUR;10CRUCIFORM NUMBER FOUR;10NUMBER FIVE;17TEN;18WENTY
17ONE HUNDRED;+108E0;00HATRAN LETTER ALEPH;14BETH;14GIMEL;14DALETH-RESH;14HE;14WAW;14ZAYN;14HETH
14TETH;14YODH;14KAPH;14LAMEDH;14MEM;14NUN;14SAMEKH;14AYN;14PE;14SADHE;14QOPH;+108F4;14SHIN;14TAW
+108FB;07NUMBER ONE;14FIVE;14TEN;15WENTY;14ONE HUNDRED;00PHOENICIAN LETTER ALF;18BET;18GAML;18DELT
18HE;18WAU;18ZAI;18HET;18TET;18YOD;18KAF;18LAMD;18MEM;18NUN;18SEMK;18AIN;18PE;18SADE;18QOF;18ROSH
18SHIN;18TAU;11NUMBER ONE;18TEN;19WENTY;18ONE HUNDRED;18TWO;19HREE;+1091F;11WORD SEPARATOR
00LYDIAN LETTER A;14B;14G;14D;14E;14V;14I;14Y;14K;14L;14M;14N;14O;14R;14SS;14T;14U;14F;14Q;14S
14TT;14AN;14EN;14LY;14NN;14C;+1093F;07TRIANGULAR MARK;+10980;00MEROITIC HIEROGLYPHIC LETTER A;29E
29I;29O;29YA;29WA;29BA;31-2;29PA;29MA;29NA;31-2;30E;31-2;29RA;31-2;29LA;29KHA;29HHA;29SA;31-2;30E
29KA;29QA;29TA;31-2;30E;31-2;30O;29DA;22SYMBOL VIDJ;33-2;09CURSIVE LETTER A;24E;24I;24O;24YA;24WA
24BA;24PA;24MA;24NA;25E;24RA;24LA;24KHA;24HHA;24SA;24ARCHAIC SA;24SE;24KA;24QA;24TA;25E;25O;24DA
+109BC;17FRACTION ELEVEN TWELFTHS;26ONE HALF;17LOGOGRAM RMT;26IMN;17NUMBER ONE;24TWO;25HREE;24FOUR
25IVE;24SIX;25EVEN;24EIGHT;24NINE;24TEN;25WENTY;25HIRTY;24FORTY;25IFTY;24SIXTY;25EVENTY;+109D2
24ONE HUNDRED;24TWO HUNDRED;25HREE HUNDRED;24FOUR HUNDRED;25IVE HUNDRED;24SIX HUNDRED
25EVEN HUNDRED;24EIGHT HUNDRED;24NINE HUNDRED;24ONE THOUSAND;24TWO THOUSAND;25HREE THOUSAND
24FOUR THOUSAND;25IVE THOUSAND;24SIX THOUSAND;25EVEN THOUSAND;24EIGHT THOUSAND;24NINE THOUSAND
24TEN THOUSAND;25WENTY THOUSAND;25HIRTY THOUSAND;24FORTY THOUSAND;25IFTY THOUSAND;24SIXTY THOUSAND
25EVENTY THOUSAND;24EIGHTY THOUSAND;24NINETY THOUSAND;24ONE HUNDRED THOUSAND
24TWO HUNDRED THOUSAND;25HREE HUNDRED THOUSAND;24FOUR HUNDRED THOUSAND;25IVE HUNDRED THOUSAND
24SIX HUNDRED THOUSAND;25EVEN HUNDRED THOUSAND;24EIGHT HUNDRED THOUSAND;24NINE HUNDRED THOUSAND
17FRACTION ONE TWELFTH;26TWO TWELFTHS;27HREE TWELFTHS;26FOUR TWELFTHS;27IVE TWELFTHS
26SIX TWELFTHS;27EVEN TWELFTHS;26EIGHT TWELFTHS;26NINE TWELFTHS;26TEN TWELFTHS
00KHAROSHTHI LETTER A;11VOWEL SIGN I;22U;22VOCALIC R;+10A05;22E;22O;+10A0C;17LENGTH MARK
11SIGN DOUBLE RING BELOW;16ANUSVARA;16VISARGA;11LETTER KA;19HA;18GA;19HA;+10A15;18CA;19HA;18JA
+10A19;18NYA;18TTA;20HA;18DDA;20HA;18NNA;18TA;19HA;18DA;19HA;18NA;18PA;19HA;18BA;19HA;18MA;18YA
18RA;18LA;18VA;18SHA;19SA;19A;18ZA;18HA;18KKA;18TTTHA;21A;18VHA;+10A38;11SIGN BAR ABOVE;16CAUDA
16DOT BELOW;+10A3F;11VIRAMA;11DIGIT ONE;17TWO;18HREE;17FOUR;11NUMBER TEN;19WENTY;18ONE HUNDRED
22THOUSAND;11FRACTION ONE HALF;+10A50;11PUNCTUATION DOT;23SMALL CIRCLE;23CIRCLE;24RESCENT BAR
23MANGALAM;23LOTUS;23DANDA;24OUBLE DANDA;23LINES;+10A60;00OLD SOUTH ARABIAN LETTER HE;25LAMEDH
25HETH;25MEM;25QOPH;25WAW;25SHIN;25RESH;25BETH;25TAW;25SAT;25KAPH;25NUN;25KHETH;25SADHE;27MEKH
25FE;25ALEF;26YN;25DHADHE;25GIMEL;25DALETH;25GHAYN;25TETH;25ZAYN;25DHALETH;25YODH;25THAW;27ETH
18NUMBER ONE;25FIFTY;21ERIC INDICATOR;04NORTH ARABIAN LETTER HEH;25LAM;25HAH;25MEEM;25QAF;25WAW
25ES-2;25REH;25BEH;25TEH;25ES-1;25KAF;25NOON;25KHAH;25SAD;25ES-3;25FEH;25ALEF;26IN;25DAD;25GEEM
25DAL;25GHAIN;25TAH;25ZAIN;25THAL;25YEH;25THEH;25ZAH;18NUMBER ONE;25TEN;26WENTY;+10AC0
00MANICHAEAN LETTER ALEPH;18BETH;19HETH;18GIMEL;19HIMEL;18DALETH;18HE;18WAW;11SIGN UD
11LETTER ZAYIN;19HAYIN;18JAYIN;19HAYIN;18HETH;18TETH;18YODH;18KAPH;18XAPH;18KHAPH;18LAMEDH
18DHAMEDH;18THAMEDH;18MEM;18NUN;18SAMEKH;18AYIN;19AYIN;18PE;18FE;18SADHE;18QOPH;18XOPH;18QHOPH
18RESH;18SHIN;19SHIN;18TAW;11ABBREVIATION MARK ABOVE;29BELOW;+10AEB;11NUMBER ONE;18FIVE;18TEN
19WENTY;18ONE HUNDRED;11PUNCTUATION STAR;23FLEURON;23DOUBLE DOT WITHIN DOT;25T WITHIN DOT;26
23TWO DOTS;23LINE FILLER;+10B00;00AVESTAN LETTER A;16A;16O;16AO;16N;16AN;16E;17E;15E;16E;15O;16O
15I;16I;15U;16U;15KE;15XE;16YE;16VE;15GE;16GE;16HE;15CE;15JE;15TE;16HE;15DE;16HE;15TTE;15PE;15FE
15BE;16HE;15NGE;17YE;17VE;16E;16YE;16NE;15ME;15HME;15YYE;16E;15VE;15RE;15LE;15SE;15ZE;15SHE;15ZHE
15SHYE;16SHE;15HE;+10B39;08ABBREVIATION MARK;00TINY TWO DOTS OVER ONE DOT PUNCTUATION
00SMALL TWO DOTS OVER ONE DOT PUNCTUATION;00LARGE TWO DOTS OVER ONE DOT PUNCTUATION
06ONE DOT OVER TWO DOTS PUNCTUATION;06TWO RINGS OVER ONE RING PUNCTUATION
06ONE RING OVER TWO RINGS PUNCTUATION;00INSCRIPTIONAL PARTHIAN LETTER ALEPH;30BETH;30GIMEL
30DALETH;30HE;30WAW;30ZAYIN;30HETH;30TETH;30YODH;30KAPH;30LAMEDH;30MEM;30NUN;30SAMEKH;30AYIN;30PE
30SADHE;30QOPH;30RESH;30SHIN;30TAW;+10B58;23NUMBER ONE;30TWO;31HREE;30FOUR;30TEN;31WENTY
30ONE HUNDRED;34THOUSAND;16HLAVI LETTER ALEPH;29BETH;29GIMEL;29DALETH;29HE;29WAW-AYIN-RESH;29ZAYIN
29HETH;29TETH;29YODH;29KAPH;29LAMEDH;29MEM-QOPH;29NUN;29SAMEKH;29PE;29SADHE;30HIN;29TAW;+10B78
22NUMBER ONE;29TWO;30HREE;29FOUR;29TEN;30WENTY;29ONE HUNDRED;33THOUSAND
00PSALTER PAHLAVI LETTER ALEPH;23BETH;23GIMEL;23DALETH;23HE;23WAW-AYIN-RESH;23ZAYIN;23HETH;23YODH
23KAPH;23LAMEDH;23MEM-QOPH;23NUN;23SAMEKH;23PE;23SADHE;24HIN;23TAW;+10B99;16SECTION MARK
16TURNED SECTION MARK;16FOUR DOTS WITH CROSS;31DOT;+10BA9;16NUMBER ONE;23TWO;24HREE;23FOUR;23TEN
24WENTY;23ONE HUNDRED;+10C00;00OLD TURKIC LETTER ORKHON A;18YENISEI A;27E;18ORKHON I;18YENISEI I
26E;18ORKHON O;26E;18YENISEI OE;18ORKHON AB;18YENISEI AB;18ORKHON AEB;18YENISEI AEB;18ORKHON AG
18YENISEI AG;18ORKHON AEG;18YENISEI AEG;18ORKHON AD;18YENISEI AD;18ORKHON AED;25EZ;18YENISEI EZ
18ORKHON AY;18YENISEI AY;18ORKHON AEY;18YENISEI AEY;18ORKHON AEK;18YENISEI AEK;18ORKHON OEK
18YENISEI OEK;18ORKHON AL;18YENISEI AL;18ORKHON AEL;25ELT;26M;25AN;26EN;18YENISEI AEN;18ORKHON ENT
18YENISEI ENT;18ORKHON ENC;18YENISEI ENC;18ORKHON ENY;18YENISEI ENY;26ANG;18ORKHON ENG
18YENISEI AENG;18ORKHON EP;25OP;25IC;25EC;18YENISEI EC;18ORKHON AQ;18YENISEI AQ;18ORKHON IQ
18YENISEI IQ;18ORKHON OQ;18YENISEI OQ;18ORKHON AR;18YENISEI AR;18ORKHON AER;26S;26ES;26SH
18YENISEI ASH;18ORKHON ESH;18YENISEI ESH;18ORKHON AT;18YENISEI AT;18ORKHON AET;18YENISEI AET
18ORKHON OT;25BASH;+10C80;04HUNGARIAN CAPITAL LETTER A;30A;29EB;29AMB;29EC;30NC;30CS;30D;29AND;29E
29CLOSE E;29EE;30F;30G;31Y;30H;29I;30I;29EJ;30K;29AK;29UNK;29EL;31Y;30M;30N;31Y;29O;30O
29NIKOLSBURG OE;29RUDIMENTA OE;29OEE;29EP;30MP;30R;29SHORT ER;29ES;31Z;30T;30NT;30TY;30CH;29U;30U
29NIKOLSBURG UE;29RUDIMENTA UE;29EV;30Z;31S;30NT-SHAPED SIGN;29US;+10CC0;14SMALL LETTER A;28A;27EB
27AMB;27EC;28NC;28CS;28D;27AND;27E;27CLOSE E;27EE;28F;28G;29Y;28H;27I;28I;27EJ;28K;27AK;27UNK;27EL
29Y;28M;28N;29Y;27O;28O;27NIKOLSBURG OE;27RUDIMENTA OE;27OEE;27EP;28MP;28R;27SHORT ER;27ES;29Z;28T
28NT;28TY;28CH;27U;28U;27NIKOLSBURG UE;27RUDIMENTA UE;27EV;28Z;29S;28NT-SHAPED SIGN;27US;+10CFA
14NUMBER ONE;21FIVE;21TEN;21FIFTY;21ONE HUNDRED;25THOUSAND;00HANIFI ROHINGYA LETTER A;23BA;23PA
23TA;24TA;23JA;23CA;23HA;23KHA;23FA;23DA;24DA;23RA;24RA;23ZA;23SA;24HA;23KA;23GA;23LA;23MA;23NA
23WA;23KINNA WA;23YA;23KINNA YA;23NGA;24YA;23VA;16VOWEL A;22I;22U;22E;22O;16MARK SAKIN;21NA KHONNA
16SIGN HARBAHAY;21TAHALA;23NA;23SSI;+10D30;16DIGIT ZERO;22ONE;22TWO;23HREE;22FOUR;23IVE;22SIX
23EVEN;22EIGHT;22NINE;+10E60;00RUMI DIGIT ONE;11TWO;12HREE;11FOUR;12IVE;11SIX;12EVEN;11EIGHT
11NINE;05NUMBER TEN;13WENTY;13HIRTY;12FORTY;13IFTY;12SIXTY;13EVENTY;12EIGHTY;12NINETY
12ONE HUNDRED;12TWO HUNDRED;13HREE HUNDRED;12FOUR HUNDRED;13IVE HUNDRED;12SIX HUNDRED
13EVEN HUNDRED;12EIGHT HUNDRED;12NINE HUNDRED;05FRACTION ONE HALF;18QUARTER;18THIRD;14TWO THIRDS
+10E80;00YEZIDI LETTER ELIF;14BE;14PE;15HE;14THE;14SE;14CIM;15HIM;16HIM;14HHA;14XA;14DAL;14ZAL
14RA;15HA;14ZA;14JA;14SIN;15HIN;15AD;14DAD;14TA;14ZE;14EYN;14XHEYN;14FA;14VA;16 ALTERNATE FORM
14QAF;14KAF;15HAF;14GAF;14LAM;14MIM;14NUN;14UM;14WAW;14OW;14EW;14HAY;14YOT;14ET;+10EAB
07COMBINING HAMZA MARK;17MADDA MARK;07HYPHENATION MARK;+10EB0;07LETTER LAM WITH DOT ABOVE
14YOT WITH CIRCUMFLEX ABOVE;+10F00;00OLD SOGDIAN LETTER ALEPH;19FINAL ALEPH;19BETH;19FINAL BETH
19GIMEL;19HE;19FINAL HE;19WAW;19ZAYIN;19HETH;19YODH;19KAPH;19LAMEDH;19MEM;19NUN;19FINAL NUN
28 WITH VERTICAL TAIL;19SAMEKH;19AYIN;20LTERNATE AYIN;19PE;19SADHE;19FINAL SADHE
30 WITH VERTICAL TAIL;19RESH-AYIN-DALETH;19SHIN;19TAW;19FINAL TAW;28 WITH VERTICAL TAIL
12NUMBER ONE;19TWO;20HREE;19FOUR;20IVE;19TEN;20WENTY;20HIRTY;19ONE HUNDRED;12FRACTION ONE HALF
12LIGATURE AYIN-DALETH;+10F30;00SOGDIAN LETTER ALEPH;15BETH;15GIMEL;15HE;15WAW;15ZAYIN;15HETH
15YODH;15KAPH;15LAMEDH;15MEM;15NUN;15SAMEKH;15AYIN;15PE;15SADHE;15RESH-AYIN;15SHIN;15TAW;15FETH
15LESH;08INDEPENDENT SHIN;08COMBINING DOT BELOW;18TWO DOTS BELOW;18DOT ABOVE;18TWO DOTS ABOVE
18CURVE ABOVE;24BELOW;18HOOK ABOVE;23BELOW;18LONG HOOK BELOW;18RESH BELOW;18STROKE BELOW
08NUMBER ONE;15TEN;16WENTY;15ONE HUNDRED;08PUNCTUATION TWO VERTICAL BARS;37 WITH DOTS
20CIRCLE WITH DOT;20TWO CIRCLES WITH DOTS;20HALF CIRCLE WITH DOT;+10F70;00OLD UYGHUR LETTER ALEPH
18BETH;18GIMEL-HETH;18WAW;18ZAYIN;18FINAL HETH;18YODH;18KAPH;18LAMEDH;18MEM;18NUN;18SAMEKH;18PE
18SADHE;18RESH;18SHIN;18TAW;18LESH;11COMBINING DOT ABOVE;25BELOW;21TWO DOTS ABOVE;30BELOW
11PUNCTUATION BAR;23TWO BARS;27DOTS;23FOUR DOTS;+10FB0;00CHORASMIAN LETTER ALEPH;18SMALL ALEPH
18BETH;18GIMEL;18DALETH;18HE;18WAW;18CURLED WAW;18ZAYIN;18HETH;18YODH;18KAPH;18LAMEDH;18MEM;18NUN
18SAMEKH;18AYIN;18PE;18RESH;18SHIN;18TAW;11NUMBER ONE;18TWO;19HREE;18FOUR;18TEN;19WENTY
18ONE HUNDRED;+10FE0;00ELYMAIC LETTER ALEPH;15BETH;15GIMEL;15DALETH;15HE;15WAW;15ZAYIN;15HETH
15TETH;15YODH;15KAPH;15LAMEDH;15MEM;15NUN;15SAMEKH;15AYIN;15PE;15SADHE;15QOPH;15RESH;15SHIN;15TAW
09IGATURE ZAYIN-YODH;+11000;00BRAHMI SIGN CANDRABINDU;12ANUSVARA;12VISARGA;12JIHVAMULIYA
12UPADHMANIYA;07LETTER A;15A;14I;15I;14U;15U;14VOCALIC R;23R;22L;23L;14E;14AI;14O;14AU;14KA;15HA
14GA;15HA;14NGA;14CA;15HA;14JA;15HA;14NYA;14TTA;16HA;14DDA;16HA;14NNA;14TA;15HA;14DA;15HA;14NA
14PA;15HA;14BA;15HA;14MA;14YA;14RA;14LA;14VA;14SHA;15SA;15A;14HA;14LLA;14OLD TAMIL LLLA;24RRA
24NNNA;07VOWEL SIGN AA;18BHATTIPROLU AA;18I;19I;18U;19U;18VOCALIC R;27R;26L;27L;18E;18AI;18O;18AU
08IRAMA;07DANDA;08OUBLE DANDA;07PUNCTUATION DOT;21UBLE DOT;19LINE;19CRESCENT BAR;19LOTUS;+11052
07NUMBER ONE;14TWO;15HREE;14FOUR;15IVE;14SIX;15EVEN;14EIGHT;14NINE;14TEN;15WENTY;15HIRTY;14FORTY
15IFTY;14SIXTY;15EVENTY;14EIGHTY;14NINETY;14ONE HUNDRED;18THOUSAND;07DIGIT ZERO;13ONE;13TWO;14HREE
13FOUR;14IVE;13SIX;14EVEN;13EIGHT;13NINE;07SIGN OLD TAMIL VIRAMA;07LETTER OLD TAMIL SHORT E;30O
07VOWEL SIGN OLD TAMIL SHORT E;34O;07LETTER OLD TAMIL LLA;+1107F;07NUMBER JOINER
00KAITHI SIGN CANDRABINDU;12ANUSVARA;12VISARGA;07LETTER A;15A;14I;15I;14U;15U;14E;14AI;14O;14AU
14KA;15HA;14GA;15HA;14NGA;14CA;15HA;14JA;15HA;14NYA;14TTA;16HA;14DDA;16DHA;16HA;14RHA;14NNA;14TA
15HA;14DA;15HA;14NA;14PA;15HA;14BA;15HA;14MA;14YA;14RA;14LA;14VA;14SHA;15SA;15A;14HA
07VOWEL SIGN AA;18I;19I;18U;19U;18E;18AI;18O;18AU;07SIGN VIRAMA;12NUKTA;07ABBREVIATION SIGN
07ENUMERATION SIGN;07NUMBER SIGN;07SECTION MARK;07DOUBLE SECTION MARK;08ANDA;08OUBLE DANDA
07VOWEL SIGN VOCALIC R;+110CD;07NUMBER SIGN ABOVE;+110D0;00SORA SOMPENG LETTER SAH;20TAH;20BAH
20CAH;20DAH;20GAH;20MAH;20NGAH;20LAH;20NAH;20VAH;20PAH;20YAH;20RAH;20HAH;20KAH;20JAH;20NYAH;20AH
20EEH;20IH;20UH;20OH;20EH;20MAE;+110F0;13DIGIT ZERO;19ONE;19TWO;20HREE;19FOUR;20IVE;19SIX;20EVEN
19EIGHT;19NINE;+11100;00CHAKMA SIGN CANDRABINDU;12ANUSVARA;12VISARGA;07LETTER AA;14I;14U;14E;14KAA
15HAA;14GAA;15HAA;14NGAA;14CAA;15HAA;14JAA;15HAA;14NYAA;14TTAA;16HAA;14DDAA;16HAA;14NNAA;14TAA
15HAA;14DAA;15HAA;14NAA;14PAA;15HAA;14BAA;15HAA;14MAA;14YYAA;15AA;14RAA;14LAA;14WAA;14SAA;14HAA
07VOWEL SIGN A;18I;19I;18U;19U;18E;18AI;18O;18AU;18OI;07O MARK;07AU MARK;07VIRAMA;07MAAYYAA;+11136
07DIGIT ZERO;13ONE;13TWO;14HREE;13FOUR;14IVE;13SIX;14EVEN;13EIGHT;13NINE;07SECTION MARK;07DANDA
08OUBLE DANDA;07QUESTION MARK;07LETTER LHAA;07VOWEL SIGN AA;18EI;07LETTER VAA;+11150
00MAHAJANI LETTER A;16I;16U;16E;16O;16KA;17HA;16GA;17HA;16CA;17HA;16JA;17HA;16NYA;16TTA;18HA;16DDA
18HA;16NNA;16TA;17HA;16DA;17HA;16NA;16PA;17HA;16BA;17HA;16MA;16RA;16LA;16VA;16SA;16HA;16RRA
09SIGN NUKTA;09ABBREVIATION SIGN;09SECTION MARK;09LIGATURE SHRI;+11180;00SHARADA SIGN CANDRABINDU
13ANUSVARA;13VISARGA;08LETTER A;16A;15I;16I;15U;16U;15VOCALIC R;24R;23L;24L;15E;15AI;15O;15AU;15KA
16HA;15GA;16HA;15NGA;15CA;16HA;15JA;16HA;15NYA;15TTA;17HA;15DDA;17HA;15NNA;15TA;16HA;15DA;16HA
15NA;15PA;16HA;15BA;16HA;15MA;15YA;15RA;15LA;16LA;15VA;15SHA;16SA;16A;15HA;08VOWEL SIGN AA;19I;20I
19U;20U;19VOCALIC R;28R;27L;28L;19E;19AI;19O;19AU;08SIGN VIRAMA;13AVAGRAHA;13JIHVAMULIYA
13UPADHMANIYA;08OM;08DANDA;09OUBLE DANDA;08ABBREVIATION SIGN;08SEPARATOR;09ANDHI MARK;09IGN NUKTA
08VOWEL MODIFIER MARK;08EXTRA SHORT VOWEL MARK;08SUTRA MARK;08VOWEL SIGN PRISHTHAMATRA E
08SIGN INVERTED CANDRABINDU;08DIGIT ZERO;14ONE;14TWO;15HREE;14FOUR;15IVE;14SIX;15EVEN;14EIGHT
14NINE;08EKAM;08SIGN SIDDHAM;08HEADSTROKE;08CONTINUATION SIGN;08SECTION MARK-1;212;+111E1
01INHALA ARCHAIC DIGIT ONE;22TWO;23HREE;22FOUR;23IVE;22SIX;23EVEN;22EIGHT;22NINE;16NUMBER TEN
24WENTY;24HIRTY;23FORTY;24IFTY;23SIXTY;24EVENTY;23EIGHTY;23NINETY;23ONE HUNDRED;27THOUSAND;+11200
00KHOJKI LETTER A;15A;14I;14U;14E;14AI;14O;14AU;14KA;15HA;14GA;15GA;15HA;14NGA;14CA;15HA;14JA;15JA
+11213;14NYA;14TTA;16HA;14DDA;16HA;14NNA;14TA;15HA;14DA;15DDA;15HA;14NA;14PA;15HA;14BA;15BA;15HA
14MA;14YA;14RA;14LA;14VA;14SA;14HA;14LLA;07VOWEL SIGN AA;18I;19I;18U;18E;18AI;18O;18AU
07SIGN ANUSVARA;12VIRAMA;12NUKTA;12SHADDA;07DANDA;08OUBLE DANDA;07WORD SEPARATOR;07SECTION MARK
07DOUBLE SECTION MARK;07ABBREVIATION SIGN;07SIGN SUKUN;+11280;00MULTANI LETTER A;15I;15U;15E;15KA
16HA;15GA;+11288;16HA;+1128A;15CA;16HA;15JA;16JA;+1128F;15NYA;15TTA;17HA;15DDA;17DA;17HA;15NNA
15TA;16HA;15DA;16HA;15NA;15PA;16HA;15BA;+1129F;16HA;15MA;15YA;15RA;15LA;15VA;15SA;15HA;15RRA;16HA
08SECTION MARK;+112B0;00KHUDAWADI LETTER A;18A;17I;18I;17U;18U;17E;17AI;17O;17AU;17KA;18HA;17GA
18GA;18HA;17NGA;17CA;18HA;17JA;18JA;18HA;17NYA;17TTA;19HA;17DDA;19DA;17RRA;17DDHA;17NNA;17TA;18HA
17DA;18HA;17NA;17PA;18HA;17BA;18BA;18HA;17MA;17YA;17RA;17LA;17VA;17SHA;18A;17HA;10SIGN ANUSVARA
10VOWEL SIGN AA;21I;22I;21U;22U;21E;21AI;21O;21AU;10SIGN NUKTA;15VIRAMA;+112F0;10DIGIT ZERO;16ONE
16TWO;17HREE;16FOUR;17IVE;16SIX;17EVEN;16EIGHT;16NINE;+11300
00GRANTHA SIGN COMBINING ANUSVARA ABOVE;14ANDRABINDU;13ANUSVARA;13VISARGA;+11305;08LETTER A;16A
15I;16I;15U;16U;15VOCALIC R;23L;+1130F;15EE;15AI;+11313;15OO;15AU;15KA;16HA;15GA;16HA;15NGA;15CA
16HA;15JA;16HA;15NYA;15TTA;17HA;15DDA;17HA;15NNA;15TA;16HA;15DA;16HA;15NA;+1132A;15PA;16HA;15BA
16HA;15MA;15YA;15RA;+11332;15LA;16LA;+11335;15VA;15SHA;16SA;16A;15HA;+1133B
00COMBINING BINDU BELOW;00GRANTHA SIGN NUKTA;13AVAGRAHA;08VOWEL SIGN AA;19I;20I;19U;20U
19VOCALIC R;28R;+11347;19EE;19AI;+1134B;19OO;19AU;08SIGN VIRAMA;+11350;08OM;+11357
08AU LENGTH MARK;+1135D;08SIGN PLUTA;08LETTER VEDIC ANUSVARA;21DOUBLE ANUSVARA;16OCALIC RR;23LL
08VOWEL SIGN VOCALIC L;28L;+11366;00COMBINING GRANTHA DIGIT ZERO;24ONE;24TWO;25HREE;24FOUR;25IVE
24SIX;+11370;18LETTER A;25KA;25NA;25VI;25PA;+11400;00NEWA LETTER A;13A;12I;13I;12U;13U;12VOCALIC R
21R;20L;21L;12E;12AI;12O;12AU;12KA;13HA;12GA;13HA;12NGA;14HA;12CA;13HA;12JA;13HA;12NYA;14HA;12TTA
14HA;12DDA;14HA;12NNA;12TA;13HA;12DA;13HA;12NA;13HA;12PA;13HA;12BA;13HA;12MA;13HA;12YA;12RA;13HA
12LA;13HA;12WA;12SHA;13SA;13A;12HA;05VOWEL SIGN AA;16I;17I;16U;17U;16VOCALIC R;25R;24L;25L;16E
16AI;16O;16AU;05SIGN VIRAMA;10CANDRABINDU;10ANUSVARA;10VISARGA;10NUKTA;10AVAGRAHA;10FINAL ANUSVARA
05OM;05SIDDHI;05DANDA;06OUBLE DANDA;05COMMA;05GAP FILLER;05ABBREVIATION SIGN;05DIGIT ZERO;11ONE
11TWO;12HREE;11FOUR;12IVE;11SIX;12EVEN;11EIGHT;11NINE;06OUBLE COMMA;05PLACEHOLDER MARK;+1145D
05INSERTION SIGN;05SANDHI MARK;05LETTER VEDIC ANUSVARA;05SIGN JIHVAMULIYA;10UPADHMANIYA;+11480
00TIRHUTA ANJI;08LETTER A;16A;15I;16I;15U;16U;15VOCALIC R;24R;23L;24L;15E;15AI;15O;15AU;15KA;16HA
15GA;16HA;15NGA;15CA;16HA;15JA;16HA;15NYA;15TTA;17HA;15DDA;17HA;15NNA;15TA;16HA;15DA;16HA;15NA
15PA;16HA;15BA;16HA;15MA;15YA;15RA;15LA;15VA;15SHA;16SA;16A;15HA;08VOWEL SIGN AA;19I;20I;19U;20U
19VOCALIC R;28R;27L;28L;19E;19SHORT E;19AI;19O;19SHORT O;19AU;08SIGN CANDRABINDU;13ANUSVARA
13VISARGA;15RAMA;13NUKTA;13AVAGRAHA;08GVANG;08ABBREVIATION SIGN;08OM;+114D0;08DIGIT ZERO;14ONE
14TWO;15HREE;14FOUR;15IVE;14SIX;15EVEN;14EIGHT;14NINE;+11580;00SIDDHAM LETTER A;16A;15I;16I;15U
16U;15VOCALIC R;24R;23L;24L;15E;15AI;15O;15AU;15KA;16HA;15GA;16HA;15NGA;15CA;16HA;15JA;16HA;15NYA
15TTA;17HA;15DDA;17HA;15NNA;15TA;16HA;15DA;16HA;15NA;15PA;16HA;15BA;16HA;15MA;15YA;15RA;15LA;15VA
15SHA;16SA;16A;15HA;08VOWEL SIGN AA;19I;20I;19U;20U;19VOCALIC R;28R;+115B8;19E;19AI;19O;19AU
08SIGN CANDRABINDU;13ANUSVARA;13VISARGA;15RAMA;13NUKTA;13SIDDHAM;08DANDA;09OUBLE DANDA
08SEPARATOR DOT;18BAR;08REPETITION MARK-1;242;243;08END OF TEXT MARK
08SECTION MARK WITH TRIDENT AND U-SHAPED ORNAMENTS;38DOTTED CRESCENTS;26RAYS AND DOTTED CRESCENTS
42DOUBLE CRESCENTS;42TRIPLE CRESCENTS;21DOUBLE RING;32 WITH RAYS;21WITH DOUBLE CRESCENTS
26TRIPLE CRESCENTS;26QUADRUPLE CRESCENTS;26SEPTUPLE CRESCENTS;26CIRCLES AND RAYS;38TWO ENCLOSURES
38FOUR ENCLOSURES;08LETTER THREE-CIRCLE ALTERNATE I;16WO-CIRCLE ALTERNATE I;37I;15ALTERNATE U
08VOWEL SIGN ALTERNATE U;30U;+11600;00MODI LETTER A;13A;12I;13I;12U;13U;12VOCALIC R;21R;20L;21L
12E;12AI;12O;12AU;12KA;13HA;12GA;13HA;12NGA;12CA;13HA;12JA;13HA;12NYA;12TTA;14HA;12DDA;14HA;12NNA
12TA;13HA;12DA;13HA;12NA;12PA;13HA;12BA;13HA;12MA;12YA;12RA;12LA;12VA;12SHA;13SA;13A;12HA;12LLA
05VOWEL SIGN AA;16I;17I;16U;17U;16VOCALIC R;25R;24L;25L;16E;16AI;16O;16AU;05SIGN ANUSVARA
10VISARGA;12RAMA;10ARDHACANDRA;05DANDA;06OUBLE DANDA;05ABBREVIATION SIGN;05SIGN HUVA;+11650
05DIGIT ZERO;11ONE;11TWO;12HREE;11FOUR;12IVE;11SIX;12EVEN;11EIGHT;11NINE;+11660
02NGOLIAN BIRGA WITH ORNAMENT;10ROTATED BIRGA;10DOUBLE BIRGA WITH ORNAMENT
10TRIPLE BIRGA WITH ORNAMENT;10BIRGA WITH DOUBLE ORNAMENT;10ROTATED BIRGA WITH ORNAMENT
29DOUBLE ORNAMENT;10INVERTED BIRGA;24 WITH DOUBLE ORNAMENT;10SWIRL BIRGA;21 WITH ORNAMENT
27DOUBLE ORNAMENT;10TURNED SWIRL BIRGA WITH DOUBLE ORNAMENT;+11680;00TAKRI LETTER A;14A;13I;14I
13U;14U;13E;13AI;13O;13AU;13KA;14HA;13GA;14HA;13NGA;13CA;14HA;13JA;14HA;13NYA;13TTA;15HA;13DDA
15HA;13NNA;13TA;14HA;13DA;14HA;13NA;13PA;14HA;13BA;14HA;13MA;13YA;13RA;13LA;13VA;13SHA;14A;13HA
13RRA;06SIGN ANUSVARA;11VISARGA;06VOWEL SIGN AA;17I;18I;17U;18U;17E;17AI;17O;17AU;06SIGN VIRAMA
11NUKTA;06LETTER ARCHAIC KHA;06ABBREVIATION SIGN;+116C0;06DIGIT ZERO;12ONE;12TWO;13HREE;12FOUR
13IVE;12SIX;13EVEN;12EIGHT;12NINE;+11700;00AHOM LETTER KA;13HA;12NGA;13A;12TA;12ALTERNATE TA;12PA
13HA;12BA;12MA;12JA;12CHA;12THA;12RA;12LA;12SA;12NYA;12HA;12A;12DA;13HA;12GA;12ALTERNATE GA;12GHA
12BHA;12JHA;12ALTERNATE BA;+1171D;05CONSONANT SIGN MEDIAL LA;27RA;27LIGATING RA;05VOWEL SIGN A;17A
16I;17I;16U;17U;16E;16AW;16O;16AI;17M;05SIGN KILLER;+11730;05DIGIT ZERO;11ONE;11TWO;12HREE;11FOUR
12IVE;11SIX;12EVEN;11EIGHT;11NINE;05NUMBER TEN;13WENTY;05SIGN SMALL SECTION;11ECTION;10RULAI
06YMBOL VI;05LETTER CA;12TTA;14HA;12DDA;14HA;12NNA;12LLA;+11800;00DOGRA LETTER A;14A;13I;14I;13U
14U;13E;13AI;13O;13AU;13KA;14HA;13GA;14HA;13NGA;13CA;14HA;13JA;14HA;13NYA;13TTA;15HA;13DDA;15HA
13NNA;13TA;14HA;13DA;14HA;13NA;13PA;14HA;13BA;14HA;13MA;13YA;13RA;13LA;13VA;13SHA;14SA;14A;13HA
13RRA;06VOWEL SIGN AA;17I;18I;17U;18U;17VOCALIC R;26R;17E;17AI;17O;17AU;06SIGN ANUSVARA;11VISARGA
13RAMA;11NUKTA;06ABBREVIATION SIGN;+118A0;00WARANG CITI CAPITAL LETTER NGAA;27A;27WI;27YU;28A;28O
27II;27UU;27E;27O;27ANG;27GA;27KO;27ENY;27YUJ;27UC;27ENN;27ODD;27TTE;27NUNG;27DA;27AT;28M;27BU
27PU;27HIYO;28OLO;29RR;28AR;27SSUU;28II;27VIYO;12SMALL LETTER NGAA;25A;25WI;25YU;26A;26O;25II;25UU
25E;25O;25ANG;25GA;25KO;25ENY;25YUJ;25UC;25ENN;25ODD;25TTE;25NUNG;25DA;25AT;26M;25BU;25PU;25HIYO
26OLO;27RR;26AR;25SSUU;26II;25VIYO;12DIGIT ZERO;18ONE;18TWO;19HREE;18FOUR;19IVE;18SIX;19EVEN
18EIGHT;18NINE;12NUMBER TEN;20WENTY;20HIRTY;19FORTY;20IFTY;19SIXTY;20EVENTY;19EIGHTY;19NINETY
+118FF;12OM;00DIVES AKURU LETTER A;20A;19I;20I;19U;20U;19E;+11909;19O;+1190C;19KA;20HA;19GA;20HA
19NGA;19CA;20HA;19JA;+11915;19NYA;19TTA;+11918;19DDA;21HA;19NNA;19TA;20HA;19DA;20HA;19NA;19PA;20HA
19BA;20HA;19MA;19YA;20YA;19RA;19LA;19VA;19SHA;20SA;20A;19HA;19LLA;19ZA;12VOWEL SIGN AA;23I;24I;23U
24U;23E;+11937;23AI;23O;+1193B;12SIGN ANUSVARA;17CANDRABINDU;17HALANTA;12VIRAMA
12PREFIXED NASAL SIGN;12MEDIAL YA;12INITIAL RA;12MEDIAL RA;12SIGN NUKTA;12DOUBLE DANDA
12GAP FILLER;12END OF TEXT MARK;+11950;12DIGIT ZERO;18ONE;18TWO;19HREE;18FOUR;19IVE;18SIX;19EVEN
18EIGHT;18NINE;+119A0;00NANDINAGARI LETTER A;20A;19I;20I;19U;20U;19VOCALIC R;28R;+119AA;19E;19AI
19O;19AU;19KA;20HA;19GA;20HA;19NGA;19CA;20HA;19JA;20HA;19NYA;19TTA;21HA;19DDA;21HA;19NNA;19TA;20HA
19DA;20HA;19NA;19PA;20HA;19BA;20HA;19MA;19YA;19RA;19LA;19VA;19SHA;20SA;20A;19HA;19LLA;19RRA
12VOWEL SIGN AA;23I;24I;23U;24U;23VOCALIC R;32R;+119DA;23E;23AI;23O;23AU;12SIGN ANUSVARA;17VISARGA
19RAMA;17AVAGRAHA;17SIDDHAM;12HEADSTROKE;12VOWEL SIGN PRISHTHAMATRA E;+11A00
00ZANABAZAR SQUARE LETTER A;17VOWEL SIGN I;28UE;29;28E;28OE;29;28AI;29U;28REVERSED I;23LENGTH MARK
17LETTER KA;25HA;24GA;25HA;24NGA;24CA;25HA;24JA;24NYA;24TTA;26HA;24DDA;26HA;24NNA;24TA;25HA;24DA
25HA;24NA;24PA;25HA;24BA;25HA;24MA;24TSA;26HA;24DZA;26HA;24ZHA;25A;24-A;24YA;24RA;24LA;24VA;24SHA
25SA;25A;24HA;24KSSA;17FINAL CONSONANT MARK;17SIGN VIRAMA;22CANDRABINDU;33 WITH ORNAMENT
28 WITH ORNAMENT;22ANUSVARA;22VISARGA;17CLUSTER-INITIAL LETTER RA;25FINAL LETTER YA;38RA;38LA;38VA
17INITIAL HEAD MARK;17CLOSING HEAD MARK;17MARK TSHEG;22SHAD;22DOUBLE SHAD;22LONG TSHEG
17INITIAL DOUBLE-LINED HEAD MARK;17CLOSING DOUBLE-LINED HEAD MARK;17SUBJOINER;+11A50
00SOYOMBO LETTER A;08VOWEL SIGN I;19UE;20;19E;19O;20E;19AI;20U;19VOCALIC R;27L;14LENGTH MARK
08LETTER KA;16HA;15GA;16HA;15NGA;15CA;16HA;15JA;16HA;15NYA;15TTA;17HA;15DDA;17HA;15NNA;15TA;16HA
15DA;16HA;15NA;15PA;16HA;15BA;16HA;15MA;15TSA;17HA;15DZA;15ZHA;16A;15-A;15YA;15RA;15LA;15VA;15SHA
16SA;16A;15HA;15KSSA;08SIGN JIHVAMULIYA;13UPADHMANIYA;08CLUSTER-INITIAL LETTER RA;31LA;31SHA;32A
08FINAL CONSONANT SIGN G;29K;29NG;29D;29N;29B;29M;29R;29L;29SH;30;29-A;08SIGN ANUSVARA;13VISARGA
08GEMINATION MARK;08SUBJOINER;08MARK TSHEG;13SHAD;13DOUBLE SHAD;13PLUTA
08HEAD MARK WITH MOON AND SUN AND TRIPLE FLAME;40FLAME;35;08TERMINAL MARK-1;222;+11AB0
00CANADIAN SYLLABICS NATTILIK HI;30I;29O;30O;29A;30A;28SHRI;32I;31O;32O;31A;32A;19SPE;21I;21O;21A
00PAU CIN HAU LETTER PA;19KA;19LA;19MA;19DA;19ZA;19VA;19NGA;19HA;19GA;19KHA;19SA;19BA;19CA;19TA
20HA;19NA;19PHA;19RA;19FA;19CHA;19A;19E;19I;19O;19U;20A;19IA;19FINAL P;25K;25T;25M;25N;25L;25W
25NG;25Y;12RISING TONE LONG;23;12SANDHI GLOTTAL STOP;12RISING TONE LONG FINAL;24FINAL
12SANDHI GLOTTAL STOP FINAL;19TONE LONG;23;23 LONG FINAL;24FINAL;12MID-LEVEL TONE
12GLOTTAL STOP VARIANT;12MID-LEVEL TONE LONG FINAL;27FINAL;12LOW-FALLING TONE LONG;28
12GLOTTAL STOP;12LOW-FALLING TONE LONG FINAL;29FINAL;12GLOTTAL STOP FINAL;+11C00
00BHAIKSUKI LETTER A;18A;17I;18I;17U;18U;17VOCALIC R;26R;25L;+11C0A;17E;17AI;17O;17AU;17KA;18HA
17GA;18HA;17NGA;17CA;18HA;17JA;18HA;17NYA;17TTA;19HA;17DDA;19HA;17NNA;17TA;18HA;17DA;18HA;17NA
17PA;18HA;17BA;18HA;17MA;17YA;17RA;17LA;17VA;17SHA;18SA;18A;17HA;10VOWEL SIGN AA;21I;22I;21U;22U
21VOCALIC R;30R;29L;+11C38;21E;21AI;21O;21AU;10SIGN CANDRABINDU;15ANUSVARA;15VISARGA;17RAMA
15AVAGRAHA;10DANDA;11OUBLE DANDA;10WORD SEPARATOR;10GAP FILLER-1;212;+11C50;10DIGIT ZERO;16ONE
16TWO;17HREE;16FOUR;17IVE;16SIX;17EVEN;16EIGHT;16NINE;10NUMBER ONE;17TWO;18HREE;17FOUR;18IVE;17SIX
18EVEN;17EIGHT;17NINE;17TEN;18WENTY;18HIRTY;17FORTY;18IFTY;17SIXTY;18EVENTY;17EIGHTY;17NINETY
10HUNDREDS UNIT MARK;+11C70;00MARCHEN HEAD MARK;08MARK SHAD;08LETTER KA;16HA;15GA;15NGA;15CA;16HA
15JA;15NYA;15TA;16HA;15DA;15NA;15PA;16HA;15BA;15MA;15TSA;17HA;15DZA;15WA;15ZHA;16A;15-A;15YA;15RA
15LA;15SHA;16A;15HA;15A;+11C92;08SUBJOINED LETTER KA;26HA;25GA;25NGA;25CA;26HA;25JA;25NYA;25TA
26HA;25DA;25NA;25PA;26HA;25BA;25MA;25TSA;27HA;25DZA;25WA;25ZHA;26A;+11CA9;25YA;25RA;25LA;25SHA;26A
25HA;25A;08VOWEL SIGN AA;19I;19U;19E;19O;08SIGN ANUSVARA;13CANDRABINDU;+11D00
02SARAM GONDI LETTER A;22A;21I;22I;21U;22U;21E;+11D08;21AI;21O;+11D0B;21AU;21KA;22HA;21GA;22HA
21NGA;21CA;22HA;21JA;22HA;21NYA;21TTA;23HA;21DDA;23HA;21NNA;21TA;22HA;21DA;22HA;21NA;21PA;22HA
21BA;22HA;21MA;21YA;21RA;21LA;21VA;21SHA;22SA;22A;21HA;21LLA;21KSSA;21JNYA;21TRA;14VOWEL SIGN AA
25I;26I;25U;26U;25VOCALIC R;+11D3A;25E;+11D3C;25AI;25O;+11D3F;25AU;14SIGN ANUSVARA;19VISARGA
19NUKTA;19CANDRA;19HALANTA;14VIRAMA;14REPHA;15A-KARA;+11D50;14DIGIT ZERO;20ONE;20TWO;21HREE;20FOUR
21IVE;20SIX;21EVEN;20EIGHT;20NINE;+11D60;00GUNJALA GONDI LETTER A;22A;21I;22I;21U;22U;+11D67;21EE
21AI;+11D6A;21OO;21AU;21YA;21VA;21BA;22HA;21MA;21KA;22HA;21TA;22HA;21LA;21GA;22HA;21DA;22HA;21NA
21CA;22HA;21TTA;23HA;21LLA;21JA;22HA;21DDA;23HA;21NGA;21PA;22HA;21HA;21RA;21SA;14VOWEL SIGN AA;25I
26I;25U;26U;+11D90;25EE;25AI;+11D93;25OO;25AU;14SIGN ANUSVARA;19VISARGA;14VIRAMA;14OM;+11DA0
14DIGIT ZERO;20ONE;20TWO;21HREE;20FOUR;21IVE;20SIX;21EVEN;20EIGHT;20NINE;+11EE0
00MAKASAR LETTER KA;15GA;15NGA;15PA;15BA;15MA;15TA;15DA;15NA;15CA;15JA;15NYA;15YA;15RA;15LA;15VA
15SA;15A;08ANGKA;08VOWEL SIGN I;19U;19E;19O;08PASSIMBANG;08END OF SECTION;+11FB0;00LISU LETTER YHA
+11FC0;00TAMIL FRACTION ONE THREE-HUNDRED-AND-TWENTIETH;19ONE-HUNDRED-AND-SIXTIETH;19EIGHTIETH
19SIXTY-FOURTH;19FORTIETH;19THIRTY-SECOND;15THREE EIGHTIETHS;21SIXTY-FOURTHS;15ONE TWENTIETH
19SIXTEENTH-1;292;19TENTH;19EIGHTH;15THREE TWENTIETHS;21SIXTEENTHS;15ONE FIFTH;19QUARTER;19HALF-1
242;15THREE QUARTERS;15DOWNSCALING FACTOR KIIZH;06SIGN NEL;11CEVITU;11AAZHAAKKU;11UZHAKKU
11MUUVUZHAKKU;11KURUNI;11PATHAKKU;11MUKKURUNI;11KAACU;11PANAM;12ON;11VARAAKAN;11PAARAM;11KUZHI
11VELI;06WET CULTIVATION SIGN;06DRY CULTIVATION SIGN;06LAND SIGN;06SALT PAN SIGN
06TRADITIONAL CREDIT SIGN;18NUMBER SIGN;06CURRENT SIGN;06AND ODD SIGN;06SPENT SIGN;06TOTAL SIGN
06IN POSSESSION SIGN;06STARTING FROM SIGN;07IGN MUTHALIYA;11VAKAIYARAA;+11FFF
06PUNCTUATION END OF TEXT;00CUNEIFORM SIGN A;16 TIMES A;23BAD;23GAN2 TENU;23HA;23IGI;23LAGAR GUNU
23MUSH;23SAG;162;16B;17 TIMES ASH2;24DUN3 GUNU;24GAL;26N2 TENU;24HA;24IGI GUNU;25MIN;24LAGAB
24SHESH;24U PLUS U PLUS U;18GUNU;172;18 TIMES BALAG;25GAN2 TENU;25ME PLUS EN;25SHA3;25TAK4;16D;16K
17 TIMES ERIN2;24SHITA PLUS GISH;16L;17 TIMES AL;24DIM2;24GISH;24HA;24KAD3;25I;24SHE;24USH;17AN
17EPH;16MAR;19 TIMES SHE;16N;17 OVER AN;18THREE TIMES;18PLUS NAGA OPPOSING AN PLUS NAGA;28SQUARED
17SHE;16PIN;16RAD;19 TIMES KUR;17KAB;16SAL2;17H;18 ZIDA TENU;19KABA TENU
19OVER ASH TUG2 OVER TUG2 TUG2 OVER TUG2 PAP;28OVER ASH;36 CROSSING ASH OVER ASH OVER ASH;182
18GAB;15BA;17D;17G3;17HAR2;17L;18 OVER BAL;18AG;17R;18A2;16I;17 TIMES A;24GAR;24IGI GUNU;16U
17 OVER BU AB;26UN;18CROSSING BU;17LUG;20 OVER BULUG;17R;182;15DA;17G;18 KISIM5 TIMES A PLUS MASH
33MAR;32BALAG;33I;32GA;34 PLUS MASH;33I;34R2;33UD;32HA;32IR;34 PLUS LU;32KAK;32LA;33U
34 PLUS MASH2;34M;32NE;32PAP PLUS PAP;32SI;32TAK4;32U2 PLUS GIR2;33SH;17M;17R;18A3;194;16I;17B;17M
18 TIMES SHE;182;17N;18 KASKAL U GUNU DISH;17SH;16U;17 OVER DU;18GUNU;18SHESHIG;17B;18 TIMES ESH2
182;17G;18UD;17H;17N;183;19 GUNU;24 GUNU;184;17R2;15E;16 TIMES PAP;17OVER E NUN OVER NUN;162
17 TIMES A PLUS HA PLUS DA;24GAR;24MI;24SAL;25HE;24U;16DIN;16GIR;16L;16N;17 TIMES GAN2;28 TENU
24ME;18CROSSING EN;18OPPOSING EN;18SQUARED;16REN;17IN2;16SH2;16ZEN;19 TIMES A;27 PLUS LAL
36 TIMES LAL;27N;26BAD;26DUN3 GUNU;35 GUNU;26HA;28 GUNU;26IGI GUNU;26KASKAL;32 SQUARED;27U3;26LA
28L TIMES LAL;27I;27U;26U2;27D;15GA;17 GUNU;172;18 TIMES A PLUS DA PLUS HA;32HA;32IGI
26B2 TENU PLUS TAB;26N;26SH;282 PLUS GAL;25BAD;27R PLUS RA;26UR;28 PLUS RA;25DA;26I;27M TIMES SHE
26UB;25EL;27 PLUS LA;26N;27 TIMES GAN2 TENU;25GAN2 TENU;27R;26I;274;28 PLUS A;27R2 PLUS SU
25HA PLUS LU PLUS ESH2;27L;28 PLUS LA;26I PLUS LI;26UB2;25IGI GUNU;26SH PLUS HU PLUS ASH;25KAK
27SKAL;26ID;28 PLUS LAL;26U3 PLUS AN;25LA;25ME PLUS EN;26I;25NUN;28 OVER NUN;25PA;25SAL;27R;26HE
28 PLUS TUR;27ID;26UM;25TAK4;25U;26D;27 PLUS DU;19OVER GA2;17BA;19 CROSSING GABA;17D
18 OVER GAD GAR OVER GAR;17L;18 GAD OVER GAD GAR OVER GAR;18AM;17M;17N;182;19 TENU;20OVER GAN2
20CROSSING GAN2;17R;183;17SHAN;16ESHTIN;22 TIMES KUR;16I;17 TIMES E;24U;18CROSSING GI;174
18 OVER GI4;19CROSSING GI4;17DIM;17R2;19 GUNU;183;19 TIMES A PLUS IGI;26GAN2 TENU;26IGI
26LU PLUS IGI;26PA;17SAL;18H;19 CROSSING GISH;20TIMES BAD;26TAK4;21ENU;16U;17 CROSSING GU;172
18 TIMES KAK;28 TIMES IGI GUNU;25NUN;25SAL PLUS TUG2;19GUNU;17D;18 TIMES A PLUS KUR;25KUR
19OVER GUD LUGAL;17L;17M;18 TIMES SHE;17R;187;18UN;19SH;15HA;17 TENU;18GUNU;17L;16I;17 TIMES ASH
272;24BAD;24DISH;24GAD;24KIN;24NUN;24SHE;24U;16U;17B2;19 TIMES AN;26HAL;26KASKAL;26LISH;26UD;17L2
15I;16 A;16B;16DIM;19 OVER IDIM BUR;30SQUARED;16G;17I;18 DIB;19RI
19OVER IGI SHIR OVER SHIR UD OVER UD;19GUNU;16L;17 TIMES GAN2 TENU;172;16M;17 TIMES TAK4
18CROSSING IM;18OPPOSING IM;18SQUARED;17IN;16N;16R;16SH;15KA;17 TIMES A;25D;26 PLUS KU3;25SH2
24BAD;26LAG;26R;25I;24ERIN2;25SH2;24GA;26L;26N2 TENU;26R;27 PLUS SHA3 PLUS A;25I;26R2
26SH PLUS SAR;29CROSSING GISH;25U;26R7;24IGI;25M;24KAK;25I;26D;24LI;25U;24ME;26 PLUS DU;32GI;32TE
25I;26 PLUS NUNUZ;24NE;25UN;24PI;24RU;24SA;26R;25HA;26E;26ID;26U;25IG;25UHUR;24TAR;24U;252;25D
25MUM TIMES PA;25SH;24ZI;172;18 CROSSING KA2;17B;17D2;183;184;185;19 OVER KAD5;17K
18 TIMES IGI GUNU;17L;18 TIMES BAD;19CROSSING KAL;17M2;184;17SKAL
21 LAGAB TIMES U OVER LAGAB TIMES U;22OVER KASKAL LAGAB TIMES U OVER LAGAB TIMES U;16ESH2;16I
17 TIMES BAD;24U;25D;17D;17N;17SAL;18H;18IM5;21 OVER KISIM5;16U
17 OVER HI TIMES ASH2 KU OVER HI TIMES ASH2;173;174;18 VARIANT FORM;177;17L;18 GUNU;17N;17R
18 OPPOSING KUR;17SHU2;16WU318;15LA;17GAB;20 TIMES A;28 PLUS DA PLUS HA;34GAR;34LAL;28L;28N
28SH ZIDA TENU;27BAD;28I;27DAR;27EN;27GA;29R;28UD;30 PLUS GUD;27HA;29L;28I TIMES NUN;27IGI GUNU
28M;29 PLUS HA;35LU;27KI;29N;28U3;29L;30 PLUS HI PLUS A;27LAGAB;28ISH;28U;29L;27ME;29 PLUS EN
28USH;27NE;27SHE PLUS SUM;29ITA PLUS GISH PLUS ERIN2;43TENU;29U2;31 PLUS SHU2;28UM;27TAG;29K4
28E PLUS A PLUS SU PLUS NA;27U;28 PLUS A;34U PLUS U;282 PLUS ASH;28D;28SH;21SQUARED;19R
20 TIMES SHE;30 PLUS SUM;21GUNU;25 OVER LAGAR GUNU SHE;17HSHU;17L;18 TIMES LAL;17M;18 TIMES KUR
28 PLUS RU;16I;17L;17MMU2;17SH;16U;17 TIMES BAD;172;18 TIMES AL;25BAD;25ESH2;29 TENU;25GAN2 TENU
25HI TIMES BAD;25IM;25KAD2;283;29 PLUS ASH;26I;25LA PLUS ASH;27GAB;25ME PLUS EN;25NE;26U
25SI PLUS ASH;27K2 PLUS BU;25TUG2;20ENU;19CROSSING LU2;19OPPOSING LU2;19SQUARED;20HESHIG;173;17GAL
20 OVER LUGAL;22PPOSING LUGAL;21SHESHIG;17H;17L;17M;18 OVER LUM;27 GAR OVER GAR;15MA;17 TIMES TAK4
18GUNU;172;17H;17R;17SH;192;16E;17S;16I;17N;16U;17 OVER MU;17G;18 GUNU;17NSUB;17RGU2;17SH
19 TIMES A;26KUR;26ZA;20OVER MUSH;29 TIMES A PLUS NA;20CROSSING MUSH;193;20 TIMES A;28 PLUS DI
27DI;21GUNU;15NA;172;17GA;19 INVERTED;20TIMES SHU TENU;20OPPOSING NAGA;19R;17M NUTILLU;18;182;16E
17 TIMES A;24UD;18SHESHIG;16I;17 TIMES E;172;17M;18 TIMES GAN2 TENU;27R PLUS GAN2 TENU;17NDA2
21 TIMES AN;29SH;31 PLUS ASH;28GUD;28ME PLUS GAN2 TENU;28NE;29UN;28SHE;31 PLUS A AN;38SH
40 PLUS ASH;28U2 PLUS ASH;29SH;17SAG;16U;1711;17N;18 LAGAR TIMES GAR;31MASH;31SAL
34 OVER NUN LAGAR TIMES SAL;31USH;19TENU;19OVER NUN;19CROSSING NUN;31 LAGAR OVER LAGAR;18UZ
20 AB2 TIMES ASHGAB;31BI;31DUG;31GUD;31IGI GUNU;31KAD3;31LA;31NE;31SILA3;31U2;21KISIM5 TIMES BI
36 U;15PA;17D;17N;17P;16ESH2;16I;17 TIMES A;25B;24BI;25U;24E;24I;25B;24U;252;18CROSSING PI;17RIG
20 TIMES KAL;27UD;27ZA;21OPPOSING PIRIG;15RA;17B;16I;16U;15SA;17G NUTILLU;18;18 TIMES A;25DU;27B
25HA;25KAK;26UR;25LUM;25MI;25NUN;25SAL;26HID;25TAB;25U2;26B;26M;26R;26SH;19OVER SAG;19GUNU;17L
18 LAGAB TIMES ASH2;17NGA2;17R;16HA;183;19 TIMES A;26BAD;26GISH;26NE;26SHU2;26TUR;26U;27 PLUS A
186;18B6;18R2;17E;18 HU;19OVER SHE GAD OVER GAD GAR OVER GAR;28TAB OVER TAB GAR OVER GAR;18G9;18N
18SH;202;20LAM;17ID;19 TIMES A;26IM;18M;19 TIMES A;26BAL;27ULUG;26DIN;26GAR;26IGI;29 GUNU;26KUSHU2
26LUL;26MUG;26SAL;18NIG;18R;19 TENU;20OVER SHIR BUR OVER BUR;18TA;17U;18 OVER INVERTED SHU;182
18BUR;16I;17 GUNU;17G;184;19 OVER SIG4 SHU2;17K2;17LA3;16U;17 OVER SU;17D;182;17HUR;17M;18ASH;17R
189;15TA;17 ASTERISK;18TIMES HI;24MI;18GUNU;17B;18 OVER TAB NI OVER NI DISH OVER DISH;19SQUARED
17G;18 TIMES BI;25GUD;25SHE;27U;25TUG2;25UD;17K4;17R;16E;17 GUNU;16I;17 TENU;17L;17R;18 TIMES TAK4
19OVER TIR;27 GAD OVER GAD GAR OVER GAR;16U;17G2;17K;17M;17R;18 OVER TUR ZA OVER ZA;15U;16 GUD
17U U;17OVER U PA OVER PA GAR OVER GAR;24SUR OVER SUR;24U REVERSED OVER U REVERSED;162;16B;16D
17 KUSHU2;18TIMES BAD;24MI;24U PLUS U PLUS U;39 GUNU;18GUNU;18SHESHIG;25 TIMES BAD;17UG;16M
17 TIMES LAGAB;24ME PLUS DA;24SHA3;24U;17BIN;17UM;19 TIMES KASKAL;26PA;16N;17 GUNU;16R
17 CROSSING UR;18SHESHIG;172;18 TIMES A PLUS HA;32NA;26L;25HA;25NUN;25U2;27 PLUS ASH;33BI;174;17I
183;17U;18 TIMES A;26SHGAB;25BAR;25DUN;25GA;27L;27N2 TENU;27R;26U;25HA;25IGI;26M;26SH;25KI;25LUM
25MIN;25PA;25SHE;26IG4;25TU;25U PLUS GUD;26D;26RUDA;18DA;20 TIMES U;16SH;18 TIMES A;25KU;27R
25TAK4;18X;182;18UMX;16TUKI;16Z3;18 TIMES KASKAL;17U;15ZA;17 TENU;18SQUARED TIMES KUR;17G;17MX
16E2;16I;17 OVER ZI;173;17B;18 KABA TENU;17G;17Z2;16U;175;18 TIMES A;17BUR;17M;15KAP ELAMITE
15AB TIMES NUN;172 TIMES A;16MAR TIMES KUG;15DAG KISIM5 TIMES U2 PLUS MASH;183;16ISH PLUS SHU
16UB TIMES SHE;15EZEN TIMES GUD;26SHE;15GA2 TIMES AN PLUS KAK PLUS A;26SH2;16E22;16IG;15HUSH
15KA TIMES ANSHE;25SH3;24GISH;25UD;24HI TIMES ASH2;24LUM;24PA;24SHUL;24TU;24UR2;15LAGAB TIMES GI
16U2 SHESHIG TIMES BAD;19TIMES ESH2 PLUS LAL;25SHU;15MESH;16USH3 TIMES ZA;15NA4;16IN;189
18DA2 TIMES BAL;28GI;16U11 ROTATED NINETY DEGREES;15PESH2 ASTERISK;16IR2;15SAG TIMES IGI GUNU
15TI2;15UM TIMES ME;16 U;+12400;10NUMERIC SIGN TWO ASH;24HREE ASH;23FOUR ASH;24IVE ASH;23SIX ASH
24EVEN ASH;23EIGHT ASH;23NINE ASH;23THREE DISH;23FOUR DISH;24IVE DISH;23SIX DISH;24EVEN DISH
23EIGHT DISH;23NINE DISH;23FOUR U;24IVE U;23SIX U;24EVEN U;23EIGHT U;23NINE U;23ONE GESH2
23TWO GESH2;24HREE GESH2;23FOUR GESH2;24IVE GESH2;23SIX GESH2;24EVEN GESH2;23EIGHT GESH2
23NINE GESH2;23ONE GESHU;23TWO GESHU;24HREE GESHU;23FOUR GESHU;24IVE GESHU;23TWO SHAR2
24HREE SHAR2;34 VARIANT FORM;23FOUR SHAR2;24IVE SHAR2;23SIX SHAR2;24EVEN SHAR2;23EIGHT SHAR2
23NINE SHAR2;23ONE SHARU;23TWO SHARU;24HREE SHARU;34 VARIANT FORM;23FOUR SHARU;24IVE SHARU
23SHAR2 TIMES GAL PLUS DISH;44MIN;23ONE BURU;23TWO BURU;24HREE BURU;33 VARIANT FORM;23FOUR BURU
24IVE BURU;23THREE VARIANT FORM ESH16;4521;23FOUR VARIANT FORM LIMMU;464;46 A;47B
23SIX VARIANT FORM ASH9;24EVEN VARIANT FORM IMIN3;46 A;47B;23EIGHT VARIANT FORM USSU;463
23NINE VARIANT FORM ILIMMU;473;474;47 A;23TWO ASH TENU;24HREE ASH TENU;23FOUR ASH TENU
24IVE ASH TENU;23SIX ASH TENU;23ONE BAN2;23TWO BAN2;24HREE BAN2;23FOUR BAN2;32 VARIANT FORM
24IVE BAN2;32 VARIANT FORM;23NIGIDAMIN;29ESH;23ONE ESHE3;23TWO ESHE3;23ONE THIRD DISH
23TWO THIRDS DISH;23FIVE SIXTHS DISH;23ONE THIRD VARIANT FORM A;23TWO THIRDS VARIANT FORM A
23ONE EIGHTH ASH;27QUARTER ASH;24LD ASSYRIAN ONE SIXTH;40QUARTER;24NE QUARTER GUR;27HALF GUR
23ELAMITE ONE THIRD;31TWO THIRDS;31FORTY;32IFTY;23FOUR U VARIANT FORM;24IVE U VARIANT FORM
23SIX U VARIANT FORM;24EVEN U VARIANT FORM;23EIGHT U VARIANT FORM;23NINE U VARIANT FORM;+12470
10PUNCTUATION SIGN OLD ASSYRIAN WORD DIVIDER;27VERTICAL COLON;27DIAGONAL COLON;36TRICOLON
36QUADCOLON;+12480;10SIGN AB TIMES NUN TENU;24SHU2;16D TIMES ESH2;15BAD TIMES DISH TENU
17HAR2 TIMES AB2;28NI;28ZA;16U OVER BU TIMES NA2;15DA TIMES TAK4;17G TIMES KUR;16IM TIMES IGI
25U U U;182 TIMES UD;16UG TIMES ANSHE;26SH;28 AT LEFT;25DIN;26UN;25ERIN2;25GA;26I;27R2 GUNU;27SH
25HA;26I;25IGI GUNU;25KASKAL;26UR;27SHU2;31 PLUS KASKAL;25LAK-020;27M;28 TIMES KUR;26UH PLUS GISH
25MASH;26ES;26I;25NI;25PI;25SHE;26I GUNU;15E2 TIMES KUR;24PAP;16RIN2 X;16SH2 CROSSING ESH2
16ZEN SHESHIG TIMES ASH;34HI;34IGI GUNU;34LA;36L;34ME;36S;34SU;20TIMES SU;15GA2 TIMES BAHAR2
25DIM GUNU;26UG TIMES IGI GUNU;35KASKAL;25EREN;25GA;27R PLUS DI;34NE;25HA PLUS A
25KUSHU2 PLUS KASKAL;25LAM;28 TIMES KUR;26UH;25MUSH;25NE;27 PLUS E2;33GI;25SHIM;25ZIZ2
17BA ROTATED NINETY DEGREES;16ESHTIN TIMES U;16ISH TIMES GISH CROSSING GISH;16U2 TIMES IGI GUNU
17D PLUS GISH TIMES TAK4;15HA TENU GUNU;16I TIMES ASH OVER HI TIMES ASH;15KA TIMES BU;24KA;24U U U
25R;15LAGAB TIMES ZU OVER ZU;17K-003;2021;215;2030;2050;211;2062;2079 OVER LAK-079 GUNU;2080
211 OVER LAK-081;2092;19130;2042;19210;219;2020;215;218;2038;2065;216;19343;217;218;2083;214;2090
19441;219;22 TIMES GU;29IGI;29PAP PLUS LU3;38PAP PLUS LU3;29U2 PLUS BA;2050;217;2070;2083;2090;212
213;215;19550;19608;2017;22 TIMES ASH;29BAD;29DUN3 GUNU GUNU;29KU3;29LA;29TAR;30E;29U2;30D;30RUDA
2036;2048;22 TIMES DUB;29GA;29IGI;32 GUNU;29NI;29PAP PLUS PAP PLUS LU3;29SHESH PLUS KI;29UD;30RUDA
19724;2049;16U2 GUNU TIMES ASH;19TIMES DISH;25HAL;25PAP;28 PLUS PAP PLUS LU3;25TAK4;15MI PLUS ZA7
16USH OVER MUSH TIMES GA;36KAK;15NINDA2 TIMES DIM GUNU;28GISH;29UL;28HI;28KESH2;28LAK-050;28MASH
28PAP PLUS PAP;28U;29 PLUS U;29RUDA;15SAG GUNU TIMES HA;19TIMES EN;25SHE AT LEFT;25TAK4;16HA6 TENU
17E OVER SHE;19PLUS HUB2;24NAM2;24SAR;17U2 PLUS DUG TIMES NI;25E2 TIMES AN;16I TIMES TAK4
15TAK4 PLUS SAG;16UM TIMES GAN2 TENU;25THREE DISH;15UR2 INVERTED;19TIMES UD;17U TIMES DARA3
25LAK-668;26U3;15ZA7;16U OVER ZU PLUS SAR;175 TIMES THREE DISH TENU;+12F90
01YPRO-MINOAN SIGN CM001;222;224;225;226;227;228;229;2110;221;222;23B;223;225;227;229;2121;223;224
225;226;227;228;229;2130;223;224;225;226;227;228;229;2140;221;224;226;227;229;2150;221;222;223;224
225;226;228;229;2160;221;222;223;224;226;227;228;229;2170;221;222;223;224;225;23B;226;228;229;2180
221;222;223;224;225;226;227;228;229;2190;221;222;224;225;226;227;228;229;20100;221;222;223;224;225
227;228;229;2110;222;224;20301;222;+13000;00EGYPTIAN HIEROGLYPH A001;232;233;234;235;24A;236;24A
24B;237;238;239;2210;231;232;233;234;24A;235;236;237;24A;238;239;2220;231;232;233;234;235;236;237
238;239;2230;231;232;24A;233;234;235;236;237;238;239;2240;24A;231;232;24A;233;24A;234;235;24A;236
237;238;239;2250;231;232;233;234;235;236;237;238;239;2260;231;232;233;234;235;236;237;238;239;2270
20B001;232;233;234;235;24A;236;237;238;239;20C001;232;24A;24B;24C;233;234;235;236;237;238;239;2210
24A;231;232;233;234;235;236;237;238;239;2220;231;232;233;234;20D001;232;233;234;235;236;237;238
24A;239;2210;231;232;233;234;235;236;237;238;239;2220;231;232;233;234;235;236;237;24A;238;239;2230
231;24A;232;233;234;24A;235;236;237;238;239;2240;231;232;233;234;235;236;24A;237;238;24A;239;2250
24A;24B;24C;24D;24E;24F;24G;24H;24I;231;232;24A;233;234;24A;235;236;237;238;239;2260;231;232;233
234;235;236;237;24A;24B;24C;24D;24E;24F;24G;24H;20E001;232;233;234;235;236;237;238;24A;239;24A
2210;231;232;233;234;235;236;24A;237;24A;238;239;2220;24A;231;232;233;234;235;236;237;238;24A;239
2230;231;232;233;234;24A;236;237;238;20F001;24A;232;233;234;235;236;237;238;239;2210;231;232;233
24A;234;235;236;237;238;239;2220;231;24A;232;233;234;235;236;237;238;239;2230;231;24A;232;233;234
235;236;237;24A;238;24A;239;2240;231;232;233;234;235;24A;236;24A;237;24A;238;239;2250;231;24A;24B
24C;232;233;20G001;232;233;234;235;236;24A;237;24A;24B;238;239;2210;231;24A;232;233;234;235;236
237;238;239;2220;24A;231;232;233;234;235;236;24A;237;238;239;2230;231;232;233;234;235;236;24A;237
24A;238;239;2240;231;232;233;24A;234;235;24A;236;237;238;239;2250;231;232;233;234;20H001;232;233
234;235;236;24A;237;238;20I001;232;233;234;235;24A;236;237;238;239;24A;2210;24A;231;24A;232;233
234;235;20K001;232;233;234;235;236;237;238;20L001;232;24A;233;234;235;236;24A;237;238;20M001;24A
24B;232;233;24A;234;235;236;237;238;239;2210;24A;231;232;24A;24B;24C;24D;24E;24F;24G;24H;233;234
235;24A;236;24A;237;24A;238;239;2220;231;232;24A;233;234;24A;235;236;237;238;24A;239;2230;231;24A
232;233;24A;24B;234;235;236;237;238;239;2240;24A;231;232;233;234;20N001;232;233;234;235;236;237
238;239;2210;231;232;233;234;235;236;237;238;24A;24B;239;2220;231;232;233;234;235;24A;236;237;238
239;2230;231;232;233;24A;234;24A;235;24A;236;237;24A;238;239;2240;231;232;21L001;242;243;244;245
25A;246;247;248;249;2310;241;242;243;244;245;246;247;25A;248;249;2320;21U001;242;243;244;245;246
247;248;249;2310;25A;241;25A;242;243;244;245;246;247;248;25A;249;2320;241;242;25A;20O001;24A;232
233;234;235;24A;236;24A;24B;24C;24D;24E;24F;237;238;239;2210;24A;24B;24C;231;232;233;234;235;236
237;238;239;24A;2220;24A;231;232;233;234;24A;235;24A;236;237;238;239;24A;2230;24A;231;232;233;24A
234;235;236;24A;24B;24C;24D;237;238;239;2240;231;232;233;234;235;236;237;238;239;2250;24A;24B;231
20P001;24A;232;233;24A;234;235;236;237;238;239;2210;231;20Q001;232;233;234;235;236;237;20R001;232
24A;233;24A;24B;234;235;236;237;238;239;2210;24A;231;232;233;234;235;236;24A;237;238;239;2220;231
232;233;234;235;236;237;238;239;20S001;232;24A;233;234;235;236;24A;237;238;239;2210;231;232;233
234;24A;24B;235;236;237;24A;238;239;2220;231;232;233;234;235;236;24A;24B;237;238;239;2230;231;232
233;234;235;24A;236;237;238;239;2240;231;232;233;234;235;236;20T001;232;233;24A;234;235;236;237
24A;238;24A;239;24A;2210;231;24A;232;233;234;235;236;24A;237;238;239;2220;231;232;233;234;235;236
237;238;239;2230;231;232;24A;233;24A;234;235;236;20U001;232;233;234;235;236;24A;24B;237;238;239
2210;231;232;233;234;235;236;237;238;239;2220;231;232;233;24A;234;235;236;237;238;239;24A;2230;231
232;24A;233;234;235;236;237;238;239;2240;231;232;20V001;24A;24B;24C;24D;24E;24F;24G;24H;24I;232
24A;233;234;235;236;237;24A;24B;238;239;2210;231;24A;24B;24C;232;24A;24B;233;234;235;236;237;238
239;2220;24A;24B;24C;24D;24E;24F;24G;24H;24I;24J;24K;24L;231;232;233;24A;234;235;236;237;238;24A
239;24A;2230;24A;231;24A;232;233;24A;234;235;236;237;24A;238;239;2240;24A;20W001;232;233;24A;234
235;236;237;238;239;24A;2210;24A;231;232;233;234;24A;235;236;237;24A;238;24A;239;2220;231;232;233
234;24A;235;20X001;232;233;234;24A;24B;235;236;24A;237;238;24A;20Y001;24A;232;233;234;235;236;237
238;20Z001;232;24A;24B;24C;24D;233;24A;24B;234;24A;235;24A;236;237;238;239;2210;231;232;233;234
235;24A;24B;24C;24D;24E;24F;24G;24H;24I;236;24A;24B;24C;24D;24E;24F;24G;24H;20AA001;242;243;244
245;246;247;25A;25B;248;249;2310;241;242;243;244;245;246;247;248;249;2320;241;242;243;244;245;246
247;248;249;2330;241;242;+13430;20VERTICAL JOINER;20HORIZONTAL JOINER;20INSERT AT TOP START
30BOTTOM START;30TOP END;30BOTTOM END;20OVERLAY MIDDLE;20BEGIN SEGMENT;20END SEGMENT;+14400
00ANATOLIAN HIEROGLYPH A001;242;243;244;245;246;247;248;249;2310;25A;241;242;243;244;245;246;247
248;249;2320;241;242;243;244;245;246;25A;247;248;249;2330;241;242;243;244;245;246;247;248;249;25A
2340;241;25A;242;243;244;245;25A;246;25A;25B;247;248;249;2350;241;242;243;244;245;246;247;248;249
2360;241;242;243;244;245;246;25A;25B;25C;247;248;249;2370;241;242;243;244;245;246;247;248;249;2380
241;242;243;244;245;246;247;248;249;2390;241;242;243;244;245;246;247;25A;248;25A;249;22100;25A;241
25A;242;25A;243;244;25A;25B;25C;245;25A;25B;246;247;25A;25B;25C;248;249;2310;25A;25B;241;242;243
244;245;25A;246;247;248;249;2320;241;242;243;244;245;25A;246;247;248;249;2330;241;242;243;244;245
25A;246;247;248;249;2340;241;242;243;244;245;246;247;248;249;2350;241;242;243;244;245;246;247;248
249;2360;241;242;243;244;245;246;247;248;249;2370;241;242;243;244;245;246;247;248;249;2380;241;242
243;244;245;246;247;248;249;2390;241;242;243;244;245;246;247;248;249;22200;241;242;25A;25B;243;244
245;246;247;25A;248;249;25A;2310;241;242;243;244;245;25A;246;25A;247;248;249;2320;241;242;243;244
245;246;247;25A;248;249;2330;241;242;243;244;245;246;247;248;249;2340;241;242;243;244;245;246;247
248;249;2350;241;242;243;244;245;246;247;248;249;2360;241;242;243;244;245;246;247;25A;248;249;2370
241;242;243;244;245;246;247;248;249;2380;241;242;243;244;245;246;247;248;249;25A;2390;241;242;243
244;25A;245;246;247;248;249;25A;22300;241;242;243;244;245;246;247;248;249;25A;2310;241;242;243;244
245;246;247;248;249;2320;241;242;243;244;245;246;247;248;249;25A;2330;241;242A;25B;25C;243;244;245
246;25A;25B;25C;247;248;249;2340;241;242;243;244;245;246;247;248;249;2350;241;242;243;244;245;246
247;248;249;25A;2360;241;242;243;244;25A;245;246;247;248;25A;249;2370;241;25A;242;243;244;245;246
247;248;249;2380;241;25A;242;243 RA OR RI;25A;244;245;246;25A;247;248;249;2390;241;242;243 EIGHT
244;245;246;247;248;249;22400;241;242;243;244;245;246;247;248;249;2310 BEGIN LOGOGRAM MARK
25A END LOGOGRAM MARK;241;242;243;244;245;246;247;248;249;2320;241;242;243;244;245;246;247;248;249
2330;241;242;243;244;245;246;247;248;249;2340;241;242;243;244;245;246;247;248;249;2350;25A;241;242
243;244;245;246;247;25A;248;249;2360;241;242;243;244;245;246;247;248;249;2370;241;242;243;244;245
246;247;248;249;2380;241;242;243;244;245;246;247;248;249;2390;241;242;243;244;245;246;247;22501
242;243;244;245;246;247;248;249;2310;241;242;243;244;245;246;247;248;249;2320;241;242;243;244;245
246;247;248;249;2330;+16800;00BAMUM LETTER PHASE-A NGKUE MFON;21GBIEE FON;21PON MFON PIPAEMGBIEE
36BA;21NAA MFON;21SHUENSHUET;21TITA MFON;21NZA MFON;21SHINDA PA NJI;21PON PA NJI PIPAEMGBIEE;38BA
21MAEMBGBIEE;21TU MAEMBA;21NGANGU;21MAEMVEUX;23NSUAE;22VEUAENGAM;21SEUNYAM;21NTOQPEN;21KEUKEUTNDA
21NKINDI;21SUU;21NGKUENZEUM;21LAPAQ;22ET KUT;21NTAP MFAA;21MAEKEUP;21PASHAE;21GHEUAERAE;21PAMSHAE
21MON NGGEUAET;21NZUN MEUT;21U YUQ NAE;21GHEUAEGHEUAE;21NTAP NTAA;21SISA;21MGBASA;22EUNJOMNDEUQ
22OOMPUQ;21KAFA;21PA LEERAEWA;21NDA LEERAEWA;21PET;21MAEMKPEN;21NIKA;21PUP;21TUAEP;21LUAEP
21SONJAM;21TEUTEUWEN;21MAENYI;21KET;21NDAANGGEUAET;21KUOQ;21MOOMEUT;21SHUM;21LOMMAE;21FIRI;21ROM
21KPOQ;21SOQ;21MAP PIEET;21SHIRAE;21NTAP;21SHOQ NSHUT YUM;21NYIT MONGKEUAEQ;21PAARAE;21NKAARAE
21UNKNOWN;21NGGEN;21MAESI;21NJAM;21MBANYI;21NYET;21TEUAEN;21SOT;21PAAM;21NSHIEE;21MAEM;21NYI;21KAQ
21NSHA;21VEE;21LU;21NEN;22AQ;21MBAQ;19B NSHUET;21TU MAEMGBIEE;21SIEE;22ET TU;21LOM NTEUM
21MBA MAELEE;21KIEEM;21YEURAE;21MBAARAE;21KAM;21PEESHI;21YAFU LEERAEWA;21LAM NSHUT NYAM
21NTIEE SHEUOQ;22DU NJAA;21GHEUGHEUAEM;21PIT;21TU NSIEE;21SHET NJAQ;24UAEQTU;21MFON TEUAEQ
22BIT MBAAKET;21NYI NTEUM;21KEUPUQ;21GHEUGHEN;21KEUYEUX;21LAANAE;21PARUM;21VEUM;21NGKINDI MVOP
23GEU MBU;21WUAET;21SAKEUAE;21TAAM;21MEUQ;21NGGUOQ;27 LARGE;21MFIYAQ;21SUE;21MBEURI;22ONTIEEN
21NYAEMAE;21PUNGAAM;21MEUT NGGEET;21FEUX;21MBUOQ;21FEE;21KEUAEM;21MA NJEUAENA;26UQA;21LET;21NGGAAM
22SEN;21MA;21KIQ;21NGOM;19C NGKUE MAEMBA;22ZA;21YUM;21WANGKUOQ;21NGGEN;22DEUAEREE;22GKAQ;21GHARAE
21MBEEKEET;21GBAYI;21NYIR MKPARAQ MEUN;22TU MBIT;21MBEUM;21PIRIEEN;21NDOMBU;21MBAA CABBAGE-TREE
21KEUSHEUAEP;21GHAP;21KEUKAQ;21YU MUOMAE;21NZEUM;21MBUE;21NSEUAEN;21MBIT;21YEUQ;21KPARAQ;22AA
21SEUX;21NDIDA;21TAASHAE;21NJUEQ;21TITA YUE;21SUAET;21NGGUAEN NYAM;21VEUX;21NANSANAQ;21MA KEUAERI
21NTAA;22GGUON;21LAP;21MBIRIEEN;22GBASAQ;21NTEUNGBA;21TEUTEUX;21NGGUM;21FUE;21NDEUT;22SA;23HAQ
21BUNG;21VEUAEPEN;21MBERAE;21RU;21NJAEM;21LAM;21TITUAEP;21NSUOT NGOM;22JEEEE;21KET;21NGGU;21MAESI
22BUAEM;21LU;21KUT;21NJAM;22GOM;21WUP;21NGGUEET;22SOM;22TEN;21KUOP NKAARAE;21NSUN;22DAM;21MA NSIEE
21YAA;21NDAP;21SHUEQ;22ETFON;21MBI;22AEMBA;22BANYI;21KEUSEUX;21MBEUX;21KEUM;21MBAA PICKET;21YUWOQ
21NJEUX;21MIEE;22UAE;21SHIQ;21KEN LAW;25FATIGUE;21NGAQ;22AQ;21LIQ;21PIN;22EN;21TET;19D MBUO;21WAP
21NJI;21MFON;21NJIEE;21LIEE;21NJEUT;22SHEE;22GGAAMAE;22YAM;21WUAEN;21NGKUN;21SHEE;21NGKAP
21KEUAETMEUN;21TEUT;21SHEUAE;21NJAP;21SUE;21KET;21YAEMMAE;21KUOM;21SAP;21MFEUT;21NDEUX;21MALEERI
22EUT;21SEUAEQ;21YEN;21NJEUAEM;21KEUOT MBUAE;21NGKEURI;21TU;21GHAA;21NGKYEE;21FEUFEUAET;21NDEE
21MGBOFUM;21LEUAEP;21NDON;21MONI;22GBEUN;21PUUT;21MGBIEE;22FO;21LUM;21NSIEEP;21MBAA;21KWAET;21NYET
21TEUAEN;21SOT;21YUWOQ;21KEUM;21RAEM;21TEEEE;21NGKEUAEQ;21MFEUAE;21NSIEET;21KEUP;21PIP;22EUTAE
21NYUE;21LET;21NGGAAM;21MFIEE;21NGGWAEN;21YUOM;21PAP;21YUOP;21NDAM;22TEUM;21SUAE;21KUN;21NGGEUX
23KIEE;21TUOT;21MEUN;21KUQ;21NSUM;21TEUN;21MAENJET;21NGGAP;21LEUM;21NGGUOM;22SHUT;22JUEQ;21GHEUAE
21KU;21REN OLD;21TAE;22OQ;21NYI;21RII;21LEEEE;21MEEEE;22;21SUU;21MU;21SHII;23EUX;21KYEE;21NU;21SHU
21NTEE;21PEE;21NI;21SHOQ;21PUQ;21MVOP;21LOQ;21REN MUCH;21TI;21NTUU;21MBAA SEVEN;21SAQ;21FAA
19E NDAP;21TOON;21MBEUM;21LAP;21VOM;21LOON;21PAA;21SOM;21RAQ;21NSHUOP;22DUN;21PUAE;21TAM;21NGKA
21KPEUX;21WUO;21SEE;21NGGEUAET;21PAAM;21TOO;21KUOP;21LOM;21NSHIEE;22GOP;21MAEM;21NGKEUX;23OQ
22SHUE;21RIMGBA;21NJEUX;21PEEM;21SAA;21NGGURAE;21MGBA;21GHEUX;21NGKEUAEM;22JAEMLI;21MAP;21LOOT
21NGGEEEE;22DIQ;21TAEN NTEUM;21SET;21PUM;21NDAA SOFTNESS;22GGUAESHAE NYAM;21YIEE;21GHEUN;21TUAE
21YEUAE;21PO;21TUMAE;21KEUAE;21SUAEN;21TEUAEQ;21VEUAE;21WEUX;21LAAM;21PU;21TAAQ;21GHAAMAE
21NGEUREUT;21SHEUAEQ;21MGBEN;22BEE;21NZAQ;22KOM;21GBET;21TUM;21KUET;21YAP;21NYI CLEAVER;21YIT
21MFEUQ;21NDIAQ;21PIEEQ;21YUEQ;21LEUAEM;21FUE;21GBEUX;21NGKUP;21KET;21MAE;21NGKAAMI;21GHET;21FA
21NTUM;21PEUT;21YEUM;21NGGEUAE;22YI BETWEEN;22ZUQ;21POON;21MIEE;21FUET;21NAE;21MUAE;21GHEUAE
21FU I;21MVI;21PUAQ;21NGKUM;21KUT;21PIET;21NTAP;21YEUAET;21NGGUP;21PA PEOPLE;21FU CALL;22OM;21NJEE
21A;21TOQ;21O;21I;21LAQ;21PA PLURAL;21TAA;23Q;21NDAA MY HOUSE;21SHIQ;21YEUX;21NGUAE;21YUAEN
22OQ SWIMMING;25COVER;22UQ;23N;21KEUX;21PEUX;21NJEE EPOCH;21PUE;21WUE;21FEE;21VEE;21LU;21MI;21REUX
22AE;21NGUAET;23A;21SHO;24Q;21FU REMEDY;21NA;21PI;21LOQ;21KO;21MEN;22A;23Q;21TEU;21KI;21MON;21TEN
21FAQ;21GHOM;19F KA;21U;21KU;21EE;21REE;21TAE;21NYI;21LA;21RII;23EE;21MEEEE;21TAA;21NDAA;22JAEM
21M;21SUU;22HII;22I;22EUX;21KYEE;22ET;21NUAE;23;22JUAE;21YOQ;21SHU;21YA;21NSHA;21PEUX;21NTEE;21WUE
21PEE;21RU;21NI;21REUX;21KEN;21NGKWAEN;23GA;21SHO;21PUAE;21FOM;21WA;21LI;22OQ;21KO;21MBEN;21REN
21MA;22O;22BAA;21TET;21KPA;21SAMBA;21VUEQ;+16A40;00MRO LETTER TA;11NGI;11YO;11MIM;11BA;11DA;11A
11PHI;11KHAI;11HAO;11DAI;11CHU;11KEAAE;11OL;11MAEM;11NIN;11PA;11OO;12;11RO;11SHI;11THEA;11EA;11WA
11E;11KO;11LAN;13;11HAI;11RI;11TEK;+16A60;04DIGIT ZERO;10ONE;10TWO;11HREE;10FOUR;11IVE;10SIX
11EVEN;10EIGHT;10NINE;+16A6E;05ANDA;05OUBLE DANDA;00TANGSA LETTER OZ;15C;15Q;15X;14AZ"

end EachSubject.Text.CharacterName

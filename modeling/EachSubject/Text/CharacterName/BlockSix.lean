/-!
# Names of characters from U+16A75 on

The names are written as `CharacterName` reads them.
-/

namespace EachSubject.Text.CharacterName

/-- The names of the characters from U+16A75 on. -/
def blockSix : String := "+16A75;00TANGSA LETTER AC;15Q;15X;14VZ;15C;15Q;15X;14EZ;15C;15Q;15X;14IZ;15C;15Q;15X;14UZ;15C;15Q
15X;14AWZ;16C;16Q;16X;14UIZ;16C;16Q;16X;14FINAL NG;14LONG UEX;14SHORT UEZ;20AWX;14UEC;16Z;16Q;16X
15IUZ;17C;17Q;17X;14MZ;15C;15Q;15X;14KA;15HA;14GA;14NGA;14SA;14YA;14WA;14PA;14NYA;14PHA;14BA;14MA
14NA;14HA;14LA;14HTA;14TA;14DA;14RA;14NHA;14SHA;14CA;14TSA;14GHA;14HTTA;14THA;14XA;14FA;14DHA
14CHA;14ZA;+16AC0;07DIGIT ZERO;13ONE;13TWO;14HREE;13FOUR;14IVE;13SIX;14EVEN;13EIGHT;13NINE;+16AD0
00BASSA VAH LETTER ENNI;17KA;17SE;17FA;17MBE;17YIE;17GAH;17DHII;17KPAH;17JO;17HWAH;17WA;17ZO;17GBU
17DO;17CE;17UWU;17TO;17BA;17VU;17YEIN;17PA;17WADDA;17A;17O;18O;17U;17EE;18;17I;+16AF0
10COMBINING HIGH TONE;20LOW TONE;20MID TONE;20LOW-MID TONE;20HIGH-LOW TONE;10FULL STOP;+16B00
00PAHAWH HMONG VOWEL KEEB;22V;20IB;21V;20AUB;22V;20UB;21V;20EB;21V;20AIB;22V;20OOB;22V;20AWB;22V
20UAB;22V;20OB;21V;20IAB;22V;20AB;21V;20WB;21V;20AAB;22V;13CONSONANT VAU;23NTSAU;23LAU;23HAU
23NLAU;23RAU;23NKAU;23QHAU;23YAU;23HLAU;23MAU;23CHAU;23NCHAU;23HNAU;23PLHAU;23NTHAU;24AU;23AU
23XAU;23CAU;13MARK CIM TUB;22SO;22KES;23HAV;22SUAM;22HOM;22TAUM;13SIGN VOS THOM;23SHAB CEEB
18CIM CHEEM;18VOS THIAB;22FEEM;18XYEEM NTXIV;24RHO;24TOV;24FAIB;18VOS SEEV;18MEEJ SUAB;18VOS NRUA
18IB YAM;18XAUS;18CIM TSOV ROG;+16B50;13DIGIT ZERO;19ONE;19TWO;20HREE;19FOUR;20IVE;19SIX;20EVEN
19EIGHT;19NINE;+16B5B;13NUMBER TENS;20HUNDREDS;20TEN THOUSANDS;20MILLIONS;20HUNDRED MILLIONS
20TEN BILLIONS;21RILLIONS;+16B63;13SIGN VOS LUB;18XYOO;18HLI;18THIRD-STAGE HLI;18ZWJ THAJ;18HNUB
18NQIG;18XIAB;18NTUJ;18AV;18TXHEEJ CEEV;18MEEJ TSEEB;18TAU;18LOS;18MUS;18CIM HAIS LUS NTOG NTOG
22CUAM TSHOOJ;22TXWV;26 CHWV;22PUB DAWB;22NRES TOS;+16B7D;13CLAN SIGN TSHEEJ;23YEEG;23LIS;24AUJ
23XYOOJ;23KOO;23HAWJ;23MUAS;23THOJ;24SAB;23PHAB;23KHAB;23HAM;23VAJ;23FAJ;23YAJ;23TSWB;23KWM;23VWJ
+16E40;00MEDEFAIDRIN CAPITAL LETTER M;27S;27V;27W;27ATIU;27Z;27KP;27P;27T;27G;27F;27I;27K;27A;27J
27E;27B;27C;27U;27YU;27L;27Q;27HP;27NY;27X;27D;27OE;27N;27R;27O;27AI;27Y;12SMALL LETTER M;25S;25V
25W;25ATIU;25Z;25KP;25P;25T;25G;25F;25I;25K;25A;25J;25E;25B;25C;25U;25YU;25L;25Q;25HP;25NY;25X;25D
25OE;25N;25R;25O;25AI;25Y;12DIGIT ZERO;18ONE;18TWO;19HREE;18FOUR;19IVE;18SIX;19EVEN;18EIGHT;18NINE
12NUMBER TEN;19ELEVEN;19TWELVE;20HIRTEEN;19FOURTEEN;20IFTEEN;19SIXTEEN;20EVENTEEN;19EIGHTEEN
19NINETEEN;12DIGIT ONE ALTERNATE FORM;18TWO ALTERNATE FORM;19HREE ALTERNATE FORM;12COMMA
12FULL STOP;12SYMBOL AIVA;12EXCLAMATION OH;+16F00;01IAO LETTER PA;12BA;12YI PA;12PLA;12MA;13HA
12ARCHAIC MA;12FA;12VA;13FA;12TA;12DA;12YI TTA;16A;12TTA;12DDA;12NA;13HA;12YI NNA;12ARCHAIC NA
12NNA;14HA;12LA;13YA;13HA;14YA;12TLHA;12DLHA;12TLHYA;12DLHYA;12KA;12GA;12YI KA;12QA;13GA;12NGA
14HA;12ARCHAIC NGA;12HA;12XA;12GHA;14HA;12TSSA;12DZZA;12NYA;14HA;12TSHA;12DZHA;12YI TSHA;15DZHA
12REFORMED TSHA;12SHA;13SA;12ZHA;13SHA;12TSA;12DZA;12YI TSA;12SA;12ZA;13SA;13ZA;14SA;12ARCHAIC ZZA
12ZZYA;14SYA;12WA;12AH;12HHA;12BRI;12SYI;12DZYI;12TE;13SE;12RTE;+16F4F
05SIGN CONSONANT MODIFIER BAR;05LETTER NASALIZATION;05SIGN ASPIRATION;10REFORMED VOICING
19ASPIRATION;05VOWEL SIGN A;17A;17HH;17N;18G;16O;17O;16WO;17;16E;17N;18G;16OEY;16I;17A;18N;19G;17O
17E;17I;17U;17NG;16U;17A;18N;19G;17U;17EI;17NG;16Y;17I;16AE;18E;16ERR;16ROUNDED ERR;16ER
16ROUNDED ER;16AI;16EI;16AU;16OU;16N;17G;16UOG;16YUI;16OG;17ER;16VW;16IG;16EA;16IONG;16UI;+16F8F
05TONE RIGHT;10TOP RIGHT;10ABOVE;10BELOW;05LETTER TONE-2;173;174;175;176;177;178;12REFORMED TONE-1
262;264;265;266;268;+16FE0;00TANGUT ITERATION MARK;00NUSHU ITERATION MARK;00OLD CHINESE HOOK MARK
12ITERATION MARK;00KHITAN SMALL SCRIPT FILLER;+16FF0;00VIETNAMESE ALTERNATE READING MARK CA;34NHAY
+18800;00TANGUT COMPONENT-001;192;193;194;195;196;197;198;199;1810;191;192;193;194;195;196;197;198
199;1820;191;192;193;194;195;196;197;198;199;1830;191;192;193;194;195;196;197;198;199;1840;191;192
193;194;195;196;197;198;199;1850;191;192;193;194;195;196;197;198;199;1860;191;192;193;194;195;196
197;198;199;1870;191;192;193;194;195;196;197;198;199;1880;191;192;193;194;195;196;197;198;199;1890
191;192;193;194;195;196;197;198;199;17100;191;192;193;194;195;196;197;198;199;1810;191;192;193;194
195;196;197;198;199;1820;191;192;193;194;195;196;197;198;199;1830;191;192;193;194;195;196;197;198
199;1840;191;192;193;194;195;196;197;198;199;1850;191;192;193;194;195;196;197;198;199;1860;191;192
193;194;195;196;197;198;199;1870;191;192;193;194;195;196;197;198;199;1880;191;192;193;194;195;196
197;198;199;1890;191;192;193;194;195;196;197;198;199;17200;191;192;193;194;195;196;197;198;199
1810;191;192;193;194;195;196;197;198;199;1820;191;192;193;194;195;196;197;198;199;1830;191;192;193
194;195;196;197;198;199;1840;191;192;193;194;195;196;197;198;199;1850;191;192;193;194;195;196;197
198;199;1860;191;192;193;194;195;196;197;198;199;1870;191;192;193;194;195;196;197;198;199;1880;191
192;193;194;195;196;197;198;199;1890;191;192;193;194;195;196;197;198;199;17300;191;192;193;194;195
196;197;198;199;1810;191;192;193;194;195;196;197;198;199;1820;191;192;193;194;195;196;197;198;199
1830;191;192;193;194;195;196;197;198;199;1840;191;192;193;194;195;196;197;198;199;1850;191;192;193
194;195;196;197;198;199;1860;191;192;193;194;195;196;197;198;199;1870;191;192;193;194;195;196;197
198;199;1880;191;192;193;194;195;196;197;198;199;1890;191;192;193;194;195;196;197;198;199;17400
191;192;193;194;195;196;197;198;199;1810;191;192;193;194;195;196;197;198;199;1820;191;192;193;194
195;196;197;198;199;1830;191;192;193;194;195;196;197;198;199;1840;191;192;193;194;195;196;197;198
199;1850;191;192;193;194;195;196;197;198;199;1860;191;192;193;194;195;196;197;198;199;1870;191;192
193;194;195;196;197;198;199;1880;191;192;193;194;195;196;197;198;199;1890;191;192;193;194;195;196
197;198;199;17500;191;192;193;194;195;196;197;198;199;1810;191;192;193;194;195;196;197;198;199
1820;191;192;193;194;195;196;197;198;199;1830;191;192;193;194;195;196;197;198;199;1840;191;192;193
194;195;196;197;198;199;1850;191;192;193;194;195;196;197;198;199;1860;191;192;193;194;195;196;197
198;199;1870;191;192;193;194;195;196;197;198;199;1880;191;192;193;194;195;196;197;198;199;1890;191
192;193;194;195;196;197;198;199;17600;191;192;193;194;195;196;197;198;199;1810;191;192;193;194;195
196;197;198;199;1820;191;192;193;194;195;196;197;198;199;1830;191;192;193;194;195;196;197;198;199
1840;191;192;193;194;195;196;197;198;199;1850;191;192;193;194;195;196;197;198;199;1860;191;192;193
194;195;196;197;198;199;1870;191;192;193;194;195;196;197;198;199;1880;191;192;193;194;195;196;197
198;199;1890;191;192;193;194;195;196;197;198;199;17700;191;192;193;194;195;196;197;198;199;1810
191;192;193;194;195;196;197;198;199;1820;191;192;193;194;195;196;197;198;199;1830;191;192;193;194
195;196;197;198;199;1840;191;192;193;194;195;196;197;198;199;1850;191;192;193;194;195;196;197;198
199;1860;191;192;193;194;195;196;197;198;00KHITAN SMALL SCRIPT CHARACTER-18B00;341;342;343;344;345
346;347;348;349;34A;34B;34C;34D;34E;34F;3310;341;342;343;344;345;346;347;348;349;34A;34B;34C;34D
34E;34F;3320;341;342;343;344;345;346;347;348;349;34A;34B;34C;34D;34E;34F;3330;341;342;343;344;345
346;347;348;349;34A;34B;34C;34D;34E;34F;3340;341;342;343;344;345;346;347;348;349;34A;34B;34C;34D
34E;34F;3350;341;342;343;344;345;346;347;348;349;34A;34B;34C;34D;34E;34F;3360;341;342;343;344;345
346;347;348;349;34A;34B;34C;34D;34E;34F;3370;341;342;343;344;345;346;347;348;349;34A;34B;34C;34D
34E;34F;3380;341;342;343;344;345;346;347;348;349;34A;34B;34C;34D;34E;34F;3390;341;342;343;344;345
346;347;348;349;34A;34B;34C;34D;34E;34F;33A0;341;342;343;344;345;346;347;348;349;34A;34B;34C;34D
34E;34F;33B0;341;342;343;344;345;346;347;348;349;34A;34B;34C;34D;34E;34F;33C0;341;342;343;344;345
346;347;348;349;34A;34B;34C;34D;34E;34F;33D0;341;342;343;344;345;346;347;348;349;34A;34B;34C;34D
34E;34F;33E0;341;342;343;344;345;346;347;348;349;34A;34B;34C;34D;34E;34F;33F0;341;342;343;344;345
346;347;348;349;34A;34B;34C;34D;34E;34F;32C00;341;342;343;344;345;346;347;348;349;34A;34B;34C;34D
34E;34F;3310;341;342;343;344;345;346;347;348;349;34A;34B;34C;34D;34E;34F;3320;341;342;343;344;345
346;347;348;349;34A;34B;34C;34D;34E;34F;3330;341;342;343;344;345;346;347;348;349;34A;34B;34C;34D
34E;34F;3340;341;342;343;344;345;346;347;348;349;34A;34B;34C;34D;34E;34F;3350;341;342;343;344;345
346;347;348;349;34A;34B;34C;34D;34E;34F;3360;341;342;343;344;345;346;347;348;349;34A;34B;34C;34D
34E;34F;3370;341;342;343;344;345;346;347;348;349;34A;34B;34C;34D;34E;34F;3380;341;342;343;344;345
346;347;348;349;34A;34B;34C;34D;34E;34F;3390;341;342;343;344;345;346;347;348;349;34A;34B;34C;34D
34E;34F;33A0;341;342;343;344;345;346;347;348;349;34A;34B;34C;34D;34E;34F;33B0;341;342;343;344;345
346;347;348;349;34A;34B;34C;34D;34E;34F;33C0;341;342;343;344;345;346;347;348;349;34A;34B;34C;34D
34E;34F;33D0;341;342;343;344;345;+1AFF0;01ATAKANA LETTER MINNAN TONE-2;283;284;285;+1AFF5;287;288
23NASALIZED TONE-1;382;383;384;385;+1AFFD;387;388;+1B000;16ARCHAIC E;00HIRAGANA LETTER ARCHAIC YE
01ENTAIGANA LETTER A-1;202;203;20WO;18I-1;202;203;204;18U-1;202;203;204;205;18E-2;203;204;205;206
18O-1;202;203;18KA-1;212;213;214;215;216;217;218;219;2110;221;21KE;19I-1;212;213;214;215;216;217
218;19U-1;212;213;214;215;216;217;19E-1;212;213;214;215;216;19O-1;212;213;21KI;18SA-1;212;213;214
215;216;217;218;19I-1;212;213;214;215;216;19U-1;212;213;214;215;216;217;218;19E-1;212;213;214;215
19O-1;212;213;214;215;216;217;18TA-1;212;213;214;19I-1;212;213;214;215;216;217;19U-1;212;213;214
21TO;19E-1;212;213;214;215;216;217;218;219;19O-1;212;213;214;215;216;21RA;18NA-1;212;213;214;215
216;217;218;219;19I-1;212;213;214;215;216;217;21TE;19U-1;212;213;19E-1;212;213;214;215;216;21KO
19O-1;212;213;214;215;18HA-1;212;213;214;215;216;217;218;219;2110;221;19I-1;212;213;214;215;216
217;19U-1;212;213;19E-1;212;213;214;215;216;217;19O-1;212;213;214;215;216;217;218;18MA-1;212;213
214;215;216;217;19I-1;212;213;214;215;216;217;19U-1;212;213;214;19E-1;212;21MA;19O-1;212;213;214
215;216;18YA-1;212;213;214;215;21YO;19U-1;212;213;214;19O-1;212;213;214;215;216;18RA-1;212;213;214
19I-1;212;213;214;215;216;217;19U-1;212;213;214;215;216;19E-1;212;213;214;19O-1;212;213;214;215
216;18WA-1;212;213;214;215;19I-1;212;213;214;215;19E-1;212;213;214;19O-1;212;213;214;215;216;217
18N-MU-MO-1;262;01IRAGANA LETTER ARCHAIC WU;00KATAKANA LETTER ARCHAIC YI;25E;24WU;+1B150
00HIRAGANA LETTER SMALL WI;23E;23O;+1B164;00KATAKANA LETTER SMALL WI;23E;23O;22N;+1B170
00NUSHU CHARACTER-1B170;201;202;203;204;205;206;207;208;209;20A;20B;20C;20D;20E;20F;1980;201;202
203;204;205;206;207;208;209;20A;20B;20C;20D;20E;20F;1990;201;202;203;204;205;206;207;208;209;20A
20B;20C;20D;20E;20F;19A0;201;202;203;204;205;206;207;208;209;20A;20B;20C;20D;20E;20F;19B0;201;202
203;204;205;206;207;208;209;20A;20B;20C;20D;20E;20F;19C0;201;202;203;204;205;206;207;208;209;20A
20B;20C;20D;20E;20F;19D0;201;202;203;204;205;206;207;208;209;20A;20B;20C;20D;20E;20F;19E0;201;202
203;204;205;206;207;208;209;20A;20B;20C;20D;20E;20F;19F0;201;202;203;204;205;206;207;208;209;20A
20B;20C;20D;20E;20F;18200;201;202;203;204;205;206;207;208;209;20A;20B;20C;20D;20E;20F;1910;201;202
203;204;205;206;207;208;209;20A;20B;20C;20D;20E;20F;1920;201;202;203;204;205;206;207;208;209;20A
20B;20C;20D;20E;20F;1930;201;202;203;204;205;206;207;208;209;20A;20B;20C;20D;20E;20F;1940;201;202
203;204;205;206;207;208;209;20A;20B;20C;20D;20E;20F;1950;201;202;203;204;205;206;207;208;209;20A
20B;20C;20D;20E;20F;1960;201;202;203;204;205;206;207;208;209;20A;20B;20C;20D;20E;20F;1970;201;202
203;204;205;206;207;208;209;20A;20B;20C;20D;20E;20F;1980;201;202;203;204;205;206;207;208;209;20A
20B;20C;20D;20E;20F;1990;201;202;203;204;205;206;207;208;209;20A;20B;20C;20D;20E;20F;19A0;201;202
203;204;205;206;207;208;209;20A;20B;20C;20D;20E;20F;19B0;201;202;203;204;205;206;207;208;209;20A
20B;20C;20D;20E;20F;19C0;201;202;203;204;205;206;207;208;209;20A;20B;20C;20D;20E;20F;19D0;201;202
203;204;205;206;207;208;209;20A;20B;20C;20D;20E;20F;19E0;201;202;203;204;205;206;207;208;209;20A
20B;20C;20D;20E;20F;19F0;201;202;203;204;205;206;207;208;209;20A;20B;+1BC00;00DUPLOYAN LETTER H
16X;16P;16T;16F;16K;16L;16B;16D;16V;16G;16R;16P N;16D S;16F N;16K M;16R S;16TH;16SLOAN DH;16DH
16KK;16SLOAN J;16HL;16LH;16RH;16M;16N;16J;16S;16M N;16N M;16J M;16S J;16M WITH DOT;16N WITH DOT
16J WITH DOT;26S INSIDE AND ABOVE;16S WITH DOT;26 BELOW;16M S;16N S;16J S;16S S;16M N S;16N M S
16J M S;16S J S;16J S WITH DOT;18N;19 S;16S T;19 R;18P;19 R;16T S;18R S;16W;17H;17 R;16S N;18M
16K R S;16G R S;16S K;19 R;16A;16SLOAN OW;16OA;17;16AOU;16I;16E;16IE;16SHORT I;16UI;16EE
16SLOAN EH;16ROMANIAN I;16SLOAN EE;16LONG I;16YE;16U;16EU;16XW;16U N;16LONG U;16ROMANIAN U;16UH
16SLOAN U;16OOH;17W;17U;16WA;17O;17I;17EI;17OW;16NASAL U;22O;22I;22A;16PERNIN AN;24M;16SLOAN EN
22AN;22ON;16VOCALIC M;+1BC70;09AFFIX LEFT HORIZONTAL SECANT;15MID HORIZONTAL SECANT
15RIGHT HORIZONTAL SECANT;15LOW VERTICAL SECANT;15MID VERTICAL SECANT;15HIGH VERTICAL SECANT
15ATTACHED SECANT;24LEFT-TO-RIGHT SECANT;24TANGENT;26IL;24E HOOK;24I HOOK;24TANGENT HOOK;+1BC80
15HIGH ACUTE;20TIGHT ACUTE;20GRAVE;20LONG GRAVE;20DOT;20CIRCLE;20LINE;20WAVE;20VERTICAL;+1BC90
15LOW ACUTE;19TIGHT ACUTE;19GRAVE;19LONG GRAVE;19DOT;19CIRCLE;19LINE;19WAVE;19VERTICAL;19ARROW
+1BC9C;09SIGN O WITH CROSS;09THICK LETTER SELECTOR;09DOUBLE MARK;09PUNCTUATION CHINOOK FULL STOP
00SHORTHAND FORMAT LETTER OVERLAP;17CONTINUING OVERLAP;17DOWN STEP;17UP STEP;+1CF00
00ZNAMENNY COMBINING MARK GORAZDO NIZKO S KRYZHEM ON LEFT;24NIZKO S KRYZHEM ON LEFT
24TSATA ON LEFT;24GORAZDO NIZKO ON LEFT;24NIZKO ON LEFT;24SREDNE ON LEFT;24MALO POVYSHE ON LEFT
24POVYSHE ON LEFT;24VYSOKO ON LEFT;24MALO POVYSHE S KHOKHLOM ON LEFT;24POVYSHE S KHOKHLOM ON LEFT
24VYSOKO S KHOKHLOM ON LEFT;24GORAZDO NIZKO S KRYZHEM ON RIGHT;24NIZKO S KRYZHEM ON RIGHT
24TSATA ON RIGHT;24GORAZDO NIZKO ON RIGHT;24NIZKO ON RIGHT;24SREDNE ON RIGHT
24MALO POVYSHE ON RIGHT;24POVYSHE ON RIGHT;24VYSOKO ON RIGHT;24MALO POVYSHE S KHOKHLOM ON RIGHT
24POVYSHE S KHOKHLOM ON RIGHT;24VYSOKO S KHOKHLOM ON RIGHT;24TSATA S KRYZHEM
24MALO POVYSHE S KRYZHEM;24STRANNO MALO POVYSHE;24POVYSHE S KRYZHEM;33TRANNO;24VYSOKO S KRYZHEM
24MALO POVYSHE STRANNO;24GORAZDO VYSOKO;24ZELO;24ON;24RAVNO;24TIKHAYA;24BORZAYA;24UDARKA
24PODVERTKA;24LOMKA;24KUPNAYA;25ACHKA;24ZEVOK;24SKOBA;24RAZSEKA;24KRYZH ON LEFT;+1CF30
19TONAL RANGE MARK MRACHNO;36SVETLO;36TRESVETLO;19MARK ZADERZHKA;24DEMESTVENNY ZADERZHKA
24OTSECHKA;24PODCHASHIE;34 WITH VERTICAL STROKE;24CHASHKA;31 POLNAYA;24OBLACHKO;24SOROCHYA NOZHKA
24TOCHKA;24DVOETOCHIE;19ATTACHING VERTICAL OMET;19MARK CURVED OMET;24KRYZH
19LOWER TONAL RANGE INDICATOR;09PRIZNAK MODIFIER LEVEL-2;323;26DIRECTION FLIP;26KRYZH;26ROG;+1CF50
09NEUME KRYUK;20 TIKHY;15PARAKLIT;15DVA V CHELNU;15KLYUCH;15ZANOZHEK;15STOPITSA;23 S OCHKOM
15PEREVODKA;24 NEPOSTOYANNAYA;15STOPITSA WITH SOROCHYA NOZHKA;15CHELYUSTKA;15PALKA;15ZAPYATAYA
15GOLUBCHIK BORZY;25TIKHY;25MRACHNY;25SVETLY;25TRESVETLY;15VRAKHIYA PROSTAYA;24MRACHNAYA
24SVETLAYA;24TRESVETLAYA;24KLYUCHEVAYA PROSTAYA;36MRACHNAYA;36SVETLAYA;36TRESVETLAYA
15DOUBLE ZAPYATAYA;15REVERSED CHELYUSTKA;15DERBITSA;15KHAMILO;15CHASHKA;15PODCHASHIE
15SKAMEYTSA MRACHNAYA;25SVETLAYA;25TRESVETLAYA;26IKHAYA;15DEMESTVENNY KLYUCH
15SKAMEYTSA KLYUCHEVAYA SVETLAYA;32NEPOSTOYANNAYA;32VAYA TIKHAYA;25DVOECHELNAYA PROSTAYA
38SVETLAYA;38NEPOSTOYANNAYA;38KLYUCHEVAYA;16LOZHITIE;24 S ZAPYATOY;25ZAKRYTOE;25S KRYZHEM;15KRYZH
15ROG;15FITA;15KOBYLA;15ZMEYTSA;15STATYA;21 S ZAPYATOY;24KRYZHEM;24ZAPYATOY I KRYZHEM
24KRYZHEM I ZAPYATOY;22ZAKRYTAYA;31 S ZAPYATOY;22S ROGOM;24DVUMYA ZAPYATYMI
24ZAPYATOY I PODCHASHIEM;15POLKULIZMY;15STATYA NEPOSTOYANNAYA;17RELA PROSTAYA;22MRACHNOTIKHAYA
22KRYZHEVAYA;22POLUPOVODNAYA;24VODNAYA;22NEPOSTOYANNAYA;22KLYUCHEPOVODNAYA;29NEPOSTOYANNAYA
22TIKHAYA PUTNAYA;22DVOECHELNAYA;31OKRYZHEVAYA;32POVODNAYA;31AYA KLYUCHEVAYA
31OPOVODNAYA KLYUCHEVAYA;22GROMNAYA WITH SINGLE ZAPYATAYA;26OPOVODNAYA WITH SINGLE ZAPYATAYA
26NAYA;26OPOVODNAYA;36 WITH DOUBLE ZAPYATAYA;27KRYZHEVAYA;37 POVODNAYA;15MECHIK;21 POVODNY
22KLYUCHEVOY;29POVODNY;29NEPOSTOYANNY;15STRELA TRYASOGLASNAYA;28POVODNAYA;28STRELNAYA;15OSOKA
20 SVETLAYA;21TRESVETLAYA;21KRYUKOVAYA SVETLAYA;22LYUCHEVAYA SVETLAYA;33NEPOSTOYANNAYA
15STRELA KRYUKOVAYA;32 POVODNAYA;33GROMNAYA WITH SINGLE ZAPYATAYA
37OPOVODNAYA WITH SINGLE ZAPYATAYA;37NAYA;37OPOVODNAYA;47 WITH DOUBLE ZAPYATAYA;38KRYZHEVAYA
48 POVODNAYA;33TRYASKA;15KUFISMA;15OBLAKO;15DUDA;15NEMKA;15PAUK;+1D000
00BYZANTINE MUSICAL SYMBOL PSILI;25DASEIA;25PERISPOMENI;25OXEIA EKFONITIKON;31DIPLI
25VAREIA EKFONITIKON;32DIPLI;25KATHISTI;25SYRMATIKI;25PARAKLITIKI;25YPOKRISIS;34 DIPLI;25KREMASTI
25APESO EKFONITIKON;25EXO EKFONITIKON;25TELEIA;25KENTIMATA;25APOSTROFOS;35 DIPLI;25SYNEVMA;25THITA
25OLIGON ARCHAION;25GORGON ARCHAION;25PSILON;25CHAMILON;25VATHY;25ISON ARCHAION;25KENTIMA ARCHAION
32TA ARCHAION;25SAXIMATA;25PARICHON;25STAVROS APODEXIA;25OXEIAI ARCHAION;25VAREIAI ARCHAION
25APODERMA ARCHAION;28THEMA;25KLASMA;25REVMA;25PIASMA ARCHAION;25TINAGMA;25ANATRICHISMA;25SEISMA
26YNAGMA ARCHAION;33META STAVROU;25OYRANISMA ARCHAION;25THEMA;25LEMOI;25DYO;25TRIA;26ESSERA
25KRATIMATA;25APESO EXO NEO;25FTHORA ARCHAION;25IMIFTHORA;25TROMIKON ARCHAION;25KATAVA TROMIKON
25PELASTON;26SIFISTON;25KONTEVMA;25CHOREVMA ARCHAION;25RAPISMA;25PARAKALESMA ARCHAION
30LITIKI ARCHAION;25ICHADIN;25NANA;25PETASMA;25KONTEVMA ALLO;25TROMIKON ALLO;25STRAGGISMATA
25GRONTHISMATA;25ISON NEO;25OLIGON NEO;26XEIA NEO;25PETASTI;25KOUFISMA;25PETASTOKOUFISMA
25KRATIMOKOUFISMA;25PELASTON NEO;25KENTIMATA NEO ANO;32 NEO ANO;25YPSILI;25APOSTROFOS NEO
34I SYNDESMOS NEO;25YPORROI;25KRATIMOYPORROON;25ELAFRON;25CHAMILI;25MIKRON ISON;25VAREIA NEO
25PIASMA NEO;26SIFISTON NEO;25OMALON;25ANTIKENOMA;25LYGISMA;25PARAKLITIKI NEO;30ALESMA NEO
25ETERON PARAKALESMA;25KYLISMA;25ANTIKENOKYLISMA;25TROMIKON NEO;25EKSTREPTON;25SYNAGMA NEO;27RMA
25CHOREVMA NEO;25EPEGERMA;25SEISMA NEO;25XIRON KLASMA;25TROMIKOPSIFISTON;25PSIFISTOLYGISMA
25TROMIKOLYGISMA;32PARAKALESMA;25PSIFISTOPARAKALESMA;25TROMIKOSYNAGMA;25PSIFISTOSYNAGMA
25GORGOSYNTHETON;25ARGOSYNTHETON;25ETERON ARGOSYNTHETON;25OYRANISMA NEO;25THEMATISMOS ESO;38XO
30 APLOUN;28S KAI APOTHES;25KATAVASMA;25ENDOFONON;25YFEN KATO;30ANO;25STAVROS;25KLASMA ANO
25DIPLI ARCHAION;25KRATIMA ARCHAION;34LLO;33NEO;25APODERMA NEO;27LI;25DIPLI;25TRIPLI;26ETRAPLI
25KORONIS;25LEIMMA ENOS CHRONOU;32DYO CHRONON;32TRION CHRONON;33ESSARON CHRONON;32IMISEOS CHRONOU
25GORGON NEO ANO;32PARESTIGMENON ARISTERA;46DEXIA;25DIGORGON;33 PARESTIGMENON ARISTERA KATO;57ANO
48DEXIA;25TRIGORGON;25ARGON;25IMIDIARGON;25DIARGON;25AGOGI POLI ARGI;31ARGOTERI;34I;31METRIA;33SI
31GORGI;35OTERI;31POLI GORGI;25MARTYRIA PROTOS ICHOS;34ALLI PROTOS ICHOS;34DEYTEROS ICHOS
34ALLI DEYTEROS ICHOS;34TRITOS ICHOS;37FONIAS;35ETARTOS ICHOS;43LEGETOS ICHOS;34LEGETOS ICHOS
34PLAGIOS ICHOS;25ISAKIA TELOUS ICHIMATOS;25APOSTROFOI TELOUS ICHIMATOS;25FANEROSIS TETRAFONIAS
35MONOFONIAS;35DIFONIAS;25MARTYRIA VARYS ICHOS;34PROTOVARYS ICHOS;35LAGIOS TETARTOS ICHOS
25GORTHMIKON N APLOUN;38DIPLOUN;25ENARXIS KAI FTHORA VOU;25IMIFONON;29THORON
25FTHORA ARCHAION DEYTEROU ICHOU;32DIATONIKI PA;42NANA;32NAOS ICHOS;32DIATONIKI DI
32SKLIRON DIATONON DI;32DIATONIKI KE;42ZO;42NI KATO;45ANO;32MALAKON CHROMA DIFONIAS;47MONOFONIAS
26HTORA SKLIRON CHROMA VASIS;26THORA SKLIRON CHROMA SYNAFI;32NENANO;25CHROA ZYGOS;31KLITON
31SPATHI;25FTHORA I YFESIS TETARTIMORION;32ENARMONIOS ANTIFONIA;25YFESIS TRITIMORION
25DIESIS TRITIMORION;33ETARTIMORION;32APLI DYO DODEKATA;32MONOGRAMMOS TESSERA DODEKATA
32DIGRAMMOS EX DODEKATA;32TRIGRAMMOS OKTO DODEKATA;25YFESIS APLI DYO DODEKATA
32MONOGRAMMOS TESSERA DODEKATA;32DIGRAMMOS EX DODEKATA;32TRIGRAMMOS OKTO DODEKATA;25GENIKI DIESIS
32YFESIS;25DIASTOLI APLI MIKRI;40EGALI;34DIPLI;34THESEOS;25SIMANSIS THESEOS;41 DISIMOU;42TRISIMOU
43ETRASIMOU;34ARSEOS;40 DISIMOU;41TRISIMOU;42ETRASIMOU;25DIGRAMMA GG;27FTOGGOS OU;25STIGMA
25ARKTIKO PA;33VOU;33GA;33DI;33KE;33ZO;33NI;25KENTIMATA NEO MESO;32 NEO MESO;32TA NEO KATO
32 NEO KATO;26LASMA KATO;25GORGON NEO KATO;+1D100;00MUSICAL SYMBOL SINGLE BARLINE;15DOUBLE BARLINE
15FINAL BARLINE;15REVERSE FINAL BARLINE;15DASHED BARLINE;15SHORT BARLINE;15LEFT REPEAT SIGN
15RIGHT REPEAT SIGN;16EPEAT DOTS;15DAL SEGNO;17 CAPO;15SEGNO;15CODA;15REPEATED FIGURE-1;312;313
15FERMATA;22 BELOW;15BREATH MARK;15CAESURA;15BRACE;19KET;15ONE-LINE STAFF;15TWO-LINE STAFF
16HREE-LINE STAFF;15FOUR-LINE STAFF;16IVE-LINE STAFF;15SIX-LINE STAFF;19STRING FRETBOARD
15FOUR-STRING FRETBOARD;15G CLEF;21 OTTAVA ALTA;29BASSA;15C CLEF;15F CLEF;21 OTTAVA ALTA;29BASSA
15DRUM CLEF-1;252;+1D129;15MULTIPLE MEASURE REST;15DOUBLE SHARP;22FLAT;15FLAT UP;20DOWN
15NATURAL UP;23DOWN;15SHARP UP;21DOWN;15QUARTER TONE SHARP;28FLAT;15COMMON TIME;16UT TIME
15OTTAVA ALTA;22BASSA;15QUINDICESIMA ALTA;28BASSA;15MULTI REST;15WHOLE REST;15HALF REST
15QUARTER REST;15EIGHTH REST;15SIXTEENTH REST;15THIRTY-SECOND REST;15SIXTY-FOURTH REST
15ONE HUNDRED TWENTY-EIGHTH REST;15X NOTEHEAD;15PLUS NOTEHEAD;15CIRCLE X NOTEHEAD
15SQUARE NOTEHEAD WHITE;31BLACK;15TRIANGLE NOTEHEAD UP WHITE;36BLACK;33LEFT WHITE;38BLACK
33RIGHT WHITE;39BLACK;33DOWN WHITE;38BLACK;33UP RIGHT WHITE;42BLACK;15MOON NOTEHEAD WHITE;29BLACK
15TRIANGLE-ROUND NOTEHEAD DOWN WHITE;44BLACK;15PARENTHESIS NOTEHEAD;15VOID NOTEHEAD
15NOTEHEAD BLACK;16ULL NOTEHEAD;15CLUSTER NOTEHEAD WHITE;32BLACK;15BREVE;15WHOLE NOTE;15HALF NOTE
15QUARTER NOTE;15EIGHTH NOTE;15SIXTEENTH NOTE;15THIRTY-SECOND NOTE;15SIXTY-FOURTH NOTE
15ONE HUNDRED TWENTY-EIGHTH NOTE;15COMBINING STEM;26PRECHGESANG STEM;25TREMOLO-1;332;333
15FINGERED TREMOLO-1;322;323;15COMBINING AUGMENTATION DOT;25FLAG-1;302;303;304;305;15BEGIN BEAM
15END BEAM;15BEGIN TIE;15END TIE;15BEGIN SLUR;15END SLUR;15BEGIN PHRASE;15END PHRASE
15COMBINING ACCENT;25STACCATO;25TENUTO;25STACCATISSIMO;25MARCATO;32-STACCATO;25ACCENT-STACCATO
25LOURE;15ARPEGGIATO UP;26DOWN;15COMBINING DOIT;25RIP;25FLIP;25SMEAR;25BEND;25DOUBLE TONGUE
25TRIPLE TONGUE;15RINFORZANDO;15SUBITO;15Z;15PIANO;15MEZZO;15FORTE;15CRESCENDO;15DECRESCENDO
15GRACE NOTE SLASH;26NO SLASH;15TR;16URN;15INVERTED TURN;15TURN SLASH;20UP;15ORNAMENT STROKE-1;312
313;314;315;316;317;318;319;3110;321;15HAUPTSTIMME;15NEBENSTIMME;15END OF STIMME;15DEGREE SLASH
15COMBINING DOWN BOW;25UP BOW;25HARMONIC;25SNAP PIZZICATO;15PEDAL MARK;21UP MARK;15HALF PEDAL MARK
15GLISSANDO UP;25DOWN;15WITH FINGERNAILS;15DAMP;19 ALL;15MAXIMA;15LONGA;15BREVIS
15SEMIBREVIS WHITE;26BLACK;15MINIMA;21 BLACK;15SEMIMINIMA WHITE;26BLACK;15FUSA WHITE;20BLACK
15LONGA PERFECTA REST;21IMPERFECTA REST;15BREVIS REST;15SEMIBREVIS REST;15MINIMA REST
15SEMIMINIMA REST;15TEMPUS PERFECTUM CUM PROLATIONE PERFECTA;47IMPERFECTA;47PERFECTA DIMINUTION-1
22IMPERFECTUM CUM PROLATIONE PERFECTA;49IMPERFECTA;59 DIMINUTION-1;712;713;15CROIX
15GREGORIAN C CLEF;25F CLEF;15SQUARE B;15VIRGA;15PODATUS;15CLIVIS;15SCANDICUS;15CLIMACUS
15TORCULUS;15PORRECTUS;24 FLEXUS;15SCANDICUS FLEXUS;15TORCULUS RESUPINUS;15PES SUBPUNCTIS
15KIEVAN C CLEF;22END OF PIECE;22FINAL NOTE;22RECITATIVE MARK;22WHOLE NOTE;22HALF NOTE
22QUARTER NOTE STEM DOWN;40UP;22EIGHTH NOTE STEM DOWN;39UP;22FLAT SIGN;15SORI;15KORON;+1D200
00GREEK VOCAL NOTATION SYMBOL-1;282;283;284;285;286;287;288;289;2810;291;292;293;294;295;296;297
298;299;2820;291;292;293;294;2850;291;292;293;294;06INSTRUMENTAL NOTATION SYMBOL-1;352;354;355;357
358;3511;362;363;364;367;368;369;3523;364;365;366;367;369;3530;362;366;367;368;369;3540;362;363
365;367;368;369;3550;361;362;363;364;00COMBINING GREEK MUSICAL TRISEME;25ETRASEME;24PENTASEME
00GREEK MUSICAL LEIMMA;+1D2E0;00MAYAN NUMERAL ZERO;14ONE;14TWO;15HREE;14FOUR;15IVE;14SIX;15EVEN
14EIGHT;14NINE;14TEN;14ELEVEN;14TWELVE;15HIRTEEN;14FOURTEEN;15IFTEEN;14SIXTEEN;15EVENTEEN
14EIGHTEEN;14NINETEEN;+1D300;01ONOGRAM FOR EARTH;00DIGRAM FOR HEAVENLY EARTH;12UMAN EARTH
11EARTHLY HEAVEN;20UMAN;16;00TETRAGRAM FOR CENTRE;14FULL CIRCLE;14MIRED;14BARRIER;14KEEPING SMALL
14CONTRARIETY;14ASCENT;14OPPOSITION;14BRANCHING OUT;14DEFECTIVENESS OR DISTORTION;15IVERGENCE
14YOUTHFULNESS;14INCREASE;14PENETRATION;14REACH;14CONTACT;14HOLDING BACK;14WAITING;14FOLLOWING
14ADVANCE;14RELEASE;16SISTANCE;14EASE;14JOY;14CONTENTION;14ENDEAVOUR;14DUTIES;14CHANGE
14DECISIVENESS;14BOLD RESOLUTION;14PACKING;14LEGION;14CLOSENESS;14KINSHIP;14GATHERING;14STRENGTH
14PURITY;14FULLNESS;14RESIDENCE;14LAW OR MODEL;14RESPONSE;14GOING TO MEET;14ENCOUNTERS;14STOVE
14GREATNESS;14ENLARGEMENT;14PATTERN;14RITUAL;14FLIGHT;14VASTNESS OR WASTING;14CONSTANCY;14MEASURE
14ETERNITY;14UNITY;14DIMINISHMENT;14CLOSED MOUTH;14GUARDEDNESS;15ATHERING IN;14MASSING
14ACCUMULATION;14EMBELLISHMENT;14DOUBT;14WATCH;14SINKING;14INNER;14DEPARTURE;15ARKENING;15IMMING
14EXHAUSTION;14SEVERANCE;15TOPPAGE;14HARDNESS;14COMPLETION;15LOSURE;14FAILURE;14AGGRAVATION
14COMPLIANCE;14ON THE VERGE;14DIFFICULTIES;14LABOURING;14FOSTERING;+1D360
00COUNTING ROD UNIT DIGIT ONE;24TWO;25HREE;24FOUR;25IVE;24SIX;25EVEN;24EIGHT;24NINE
13TENS DIGIT ONE;24TWO;25HREE;24FOUR;25IVE;24SIX;25EVEN;24EIGHT;24NINE
00IDEOGRAPHIC TALLY MARK ONE;23TWO;24HREE;23FOUR;24IVE;00TALLY MARK ONE;11FIVE;+1D400
00MATHEMATICAL BOLD CAPITAL A;26B;26C;26D;26E;26F;26G;26H;26I;26J;26K;26L;26M;26N;26O;26P;26Q;26R
26S;26T;26U;26V;26W;26X;26Y;26Z;18SMALL A;24B;24C;24D;24E;24F;24G;24H;24I;24J;24K;24L;24M;24N;24O
24P;24Q;24R;24S;24T;24U;24V;24W;24X;24Y;24Z;13ITALIC CAPITAL A;28B;28C;28D;28E;28F;28G;28H;28I;28J
28K;28L;28M;28N;28O;28P;28Q;28R;28S;28T;28U;28V;28W;28X;28Y;28Z;20SMALL A;26B;26C;26D;26E;26F;26G
+1D456;26I;26J;26K;26L;26M;26N;26O;26P;26Q;26R;26S;26T;26U;26V;26W;26X;26Y;26Z
13BOLD ITALIC CAPITAL A;33B;33C;33D;33E;33F;33G;33H;33I;33J;33K;33L;33M;33N;33O;33P;33Q;33R;33S
33T;33U;33V;33W;33X;33Y;33Z;25SMALL A;31B;31C;31D;31E;31F;31G;31H;31I;31J;31K;31L;31M;31N;31O;31P
31Q;31R;31S;31T;31U;31V;31W;31X;31Y;31Z;13SCRIPT CAPITAL A;+1D49E;28C;28D;+1D4A2;28G;+1D4A5;28J
28K;+1D4A9;28N;28O;28P;28Q;+1D4AE;28S;28T;28U;28V;28W;28X;28Y;28Z;20SMALL A;26B;26C;26D;+1D4BB;26F
+1D4BD;26H;26I;26J;26K;26L;26M;26N;+1D4C5;26P;26Q;26R;26S;26T;26U;26V;26W;26X;26Y;26Z
13BOLD SCRIPT CAPITAL A;33B;33C;33D;33E;33F;33G;33H;33I;33J;33K;33L;33M;33N;33O;33P;33Q;33R;33S
33T;33U;33V;33W;33X;33Y;33Z;25SMALL A;31B;31C;31D;31E;31F;31G;31H;31I;31J;31K;31L;31M;31N;31O;31P
31Q;31R;31S;31T;31U;31V;31W;31X;31Y;31Z;13FRAKTUR CAPITAL A;29B;+1D507;29D;29E;29F;29G;+1D50D;29J
29K;29L;29M;29N;29O;29P;29Q;+1D516;29S;29T;29U;29V;29W;29X;29Y;+1D51E;21SMALL A;27B;27C;27D;27E
27F;27G;27H;27I;27J;27K;27L;27M;27N;27O;27P;27Q;27R;27S;27T;27U;27V;27W;27X;27Y;27Z
13DOUBLE-STRUCK CAPITAL A;35B;+1D53B;35D;35E;35F;35G;+1D540;35I;35J;35K;35L;35M;+1D546;35O;+1D54A
35S;35T;35U;35V;35W;35X;35Y;+1D552;27SMALL A;33B;33C;33D;33E;33F;33G;33H;33I;33J;33K;33L;33M;33N
33O;33P;33Q;33R;33S;33T;33U;33V;33W;33X;33Y;33Z;13BOLD FRAKTUR CAPITAL A;34B;34C;34D;34E;34F;34G
34H;34I;34J;34K;34L;34M;34N;34O;34P;34Q;34R;34S;34T;34U;34V;34W;34X;34Y;34Z;26SMALL A;32B;32C;32D
32E;32F;32G;32H;32I;32J;32K;32L;32M;32N;32O;32P;32Q;32R;32S;32T;32U;32V;32W;32X;32Y;32Z
13SANS-SERIF CAPITAL A;32B;32C;32D;32E;32F;32G;32H;32I;32J;32K;32L;32M;32N;32O;32P;32Q;32R;32S;32T
32U;32V;32W;32X;32Y;32Z;24SMALL A;30B;30C;30D;30E;30F;30G;30H;30I;30J;30K;30L;30M;30N;30O;30P;30Q
30R;30S;30T;30U;30V;30W;30X;30Y;30Z;24BOLD CAPITAL A;37B;37C;37D;37E;37F;37G;37H;37I;37J;37K;37L
37M;37N;37O;37P;37Q;37R;37S;37T;37U;37V;37W;37X;37Y;37Z;29SMALL A;35B;35C;35D;35E;35F;35G;35H;35I
35J;35K;35L;35M;35N;35O;35P;35Q;35R;35S;35T;35U;35V;35W;35X;35Y;35Z;24ITALIC CAPITAL A;39B;39C;39D
39E;39F;39G;39H;39I;39J;39K;39L;39M;39N;39O;39P;39Q;39R;39S;39T;39U;39V;39W;39X;39Y;39Z;31SMALL A
37B;37C;37D;37E;37F;37G;37H;37I;37J;37K;37L;37M;37N;37O;37P;37Q;37R;37S;37T;37U;37V;37W;37X;37Y
37Z;24BOLD ITALIC CAPITAL A;44B;44C;44D;44E;44F;44G;44H;44I;44J;44K;44L;44M;44N;44O;44P;44Q;44R
44S;44T;44U;44V;44W;44X;44Y;44Z;36SMALL A;42B;42C;42D;42E;42F;42G;42H;42I;42J;42K;42L;42M;42N;42O
42P;42Q;42R;42S;42T;42U;42V;42W;42X;42Y;42Z;13MONOSPACE CAPITAL A;31B;31C;31D;31E;31F;31G;31H;31I
31J;31K;31L;31M;31N;31O;31P;31Q;31R;31S;31T;31U;31V;31W;31X;31Y;31Z;23SMALL A;29B;29C;29D;29E;29F
29G;29H;29I;29J;29K;29L;29M;29N;29O;29P;29Q;29R;29S;29T;29U;29V;29W;29X;29Y;29Z
13ITALIC SMALL DOTLESS I;34J;+1D6A8;13BOLD CAPITAL ALPHA;26BETA;26GAMMA;26DELTA;26EPSILON;26ZETA
26ETA;26THETA;26IOTA;26KAPPA;26LAMDA;26MU;26NU;26XI;26OMICRON;26PI;26RHO;26THETA SYMBOL;26SIGMA
26TAU;26UPSILON;26PHI;26CHI;26PSI;26OMEGA;18NABLA;18SMALL ALPHA;24BETA;24GAMMA;24DELTA;24EPSILON
24ZETA;24ETA;24THETA;24IOTA;24KAPPA;24LAMDA;24MU;24NU;24XI;24OMICRON;24PI;24RHO;24FINAL SIGMA
24SIGMA;24TAU;24UPSILON;24PHI;24CHI;24PSI;24OMEGA;18PARTIAL DIFFERENTIAL;18EPSILON SYMBOL
18THETA SYMBOL;18KAPPA SYMBOL;18PHI SYMBOL;18RHO SYMBOL;18PI SYMBOL;13ITALIC CAPITAL ALPHA;28BETA
28GAMMA;28DELTA;28EPSILON;28ZETA;28ETA;28THETA;28IOTA;28KAPPA;28LAMDA;28MU;28NU;28XI;28OMICRON
28PI;28RHO;28THETA SYMBOL;28SIGMA;28TAU;28UPSILON;28PHI;28CHI;28PSI;28OMEGA;20NABLA;20SMALL ALPHA
26BETA;26GAMMA;26DELTA;26EPSILON;26ZETA;26ETA;26THETA;26IOTA;26KAPPA;26LAMDA;26MU;26NU;26XI
26OMICRON;26PI;26RHO;26FINAL SIGMA;26SIGMA;26TAU;26UPSILON;26PHI;26CHI;26PSI;26OMEGA
20PARTIAL DIFFERENTIAL;20EPSILON SYMBOL;20THETA SYMBOL;20KAPPA SYMBOL;20PHI SYMBOL;20RHO SYMBOL
20PI SYMBOL;13BOLD ITALIC CAPITAL ALPHA;33BETA;33GAMMA;33DELTA;33EPSILON;33ZETA;33ETA;33THETA
33IOTA;33KAPPA;33LAMDA;33MU;33NU;33XI;33OMICRON;33PI;33RHO;33THETA SYMBOL;33SIGMA;33TAU;33UPSILON
33PHI;33CHI;33PSI;33OMEGA;25NABLA;25SMALL ALPHA;31BETA;31GAMMA;31DELTA;31EPSILON;31ZETA;31ETA
31THETA;31IOTA;31KAPPA;31LAMDA;31MU;31NU;31XI;31OMICRON;31PI;31RHO;31FINAL SIGMA;31SIGMA;31TAU
31UPSILON;31PHI;31CHI;31PSI;31OMEGA;25PARTIAL DIFFERENTIAL;25EPSILON SYMBOL;25THETA SYMBOL
25KAPPA SYMBOL;25PHI SYMBOL;25RHO SYMBOL;25PI SYMBOL;13SANS-SERIF BOLD CAPITAL ALPHA;37BETA
37GAMMA;37DELTA;37EPSILON;37ZETA;37ETA;37THETA;37IOTA;37KAPPA;37LAMDA;37MU;37NU;37XI;37OMICRON
37PI;37RHO;37THETA SYMBOL;37SIGMA;37TAU;37UPSILON;37PHI;37CHI;37PSI;37OMEGA;29NABLA;29SMALL ALPHA
35BETA;35GAMMA;35DELTA;35EPSILON;35ZETA;35ETA;35THETA;35IOTA;35KAPPA;35LAMDA;35MU;35NU;35XI
35OMICRON;35PI;35RHO;35FINAL SIGMA;35SIGMA;35TAU;35UPSILON;35PHI;35CHI;35PSI;35OMEGA
29PARTIAL DIFFERENTIAL;29EPSILON SYMBOL;29THETA SYMBOL;29KAPPA SYMBOL;29PHI SYMBOL;29RHO SYMBOL
29PI SYMBOL;29ITALIC CAPITAL ALPHA;44BETA;44GAMMA;44DELTA;44EPSILON;44ZETA;44ETA;44THETA;44IOTA
44KAPPA;44LAMDA;44MU;44NU;44XI;44OMICRON;44PI;44RHO;44THETA SYMBOL;44SIGMA;44TAU;44UPSILON;44PHI
44CHI;44PSI;44OMEGA;36NABLA;36SMALL ALPHA;42BETA;42GAMMA;42DELTA;42EPSILON;42ZETA;42ETA;42THETA
42IOTA;42KAPPA;42LAMDA;42MU;42NU;42XI;42OMICRON;42PI;42RHO;42FINAL SIGMA;42SIGMA;42TAU;42UPSILON
42PHI;42CHI;42PSI;42OMEGA;36PARTIAL DIFFERENTIAL;36EPSILON SYMBOL;36THETA SYMBOL;36KAPPA SYMBOL
36PHI SYMBOL;36RHO SYMBOL;36PI SYMBOL;13BOLD CAPITAL DIGAMMA;18SMALL DIGAMMA;+1D7CE;18DIGIT ZERO
24ONE;24TWO;25HREE;24FOUR;25IVE;24SIX;25EVEN;24EIGHT;24NINE;13DOUBLE-STRUCK DIGIT ZERO;33ONE;33TWO
34HREE;33FOUR;34IVE;33SIX;34EVEN;33EIGHT;33NINE;13SANS-SERIF DIGIT ZERO;30ONE;30TWO;31HREE;30FOUR
31IVE;30SIX;31EVEN;30EIGHT;30NINE;24BOLD DIGIT ZERO;35ONE;35TWO;36HREE;35FOUR;36IVE;35SIX;36EVEN
35EIGHT;35NINE;13MONOSPACE DIGIT ZERO;29ONE;29TWO;30HREE;29FOUR;30IVE;29SIX;30EVEN;29EIGHT;29NINE
00SIGNWRITING HAND-FIST INDEX;17CIRCLE INDEX;18UP INDEX;17OVAL INDEX;17HINGE INDEX;17ANGLE INDEX
17FIST INDEX BENT;17CIRCLE INDEX BENT;17FIST THUMB UNDER INDEX BENT;22INDEX RAISED KNUCKLE
28CUPPED;28HINGED;34 LOW;17CIRCLE INDEX HINGE;17FIST INDEX MIDDLE;17CIRCLE INDEX MIDDLE
17FIST INDEX MIDDLE BENT;35RAISED KNUCKLES;35HINGED;28UP MIDDLE HINGED;28HINGED MIDDLE UP
28MIDDLE CONJOINED;44 INDEX BENT;45MIDDLE BENT;45CUPPED;45HINGED;36ROSSED
17CIRCLE INDEX MIDDLE CROSSED;17FIST MIDDLE BENT OVER INDEX;22INDEX BENT OVER MIDDLE
28MIDDLE THUMB;17CIRCLE INDEX MIDDLE THUMB;17FIST INDEX MIDDLE STRAIGHT THUMB BENT
35BENT THUMB STRAIGHT;35THUMB BENT;35HINGED SPREAD THUMB SIDE;28UP MIDDLE HINGED THUMB SIDE
51CONJOINED;28HINGED MIDDLE UP THUMB SIDE;28MIDDLE UP SPREAD THUMB FORWARD;35THUMB CUPPED;42IRCLED
41HOOKED;42INGED;22THUMB BETWEEN INDEX MIDDLE STRAIGHT;22INDEX MIDDLE CONJOINED THUMB SIDE
55 CONJOINED;56BENT;22MIDDLE THUMB HOOKED INDEX UP;22INDEX THUMB HOOKED MIDDLE UP
28MIDDLE CONJOINED HINGED THUMB SIDE;36ROSSED THUMB SIDE;36ONJOINED THUMB FORWARD
45CUPPED THUMB FORWARD;22MIDDLE THUMB CUPPED INDEX UP;22INDEX THUMB CUPPED MIDDLE UP
22MIDDLE THUMB CIRCLED INDEX UP;49HINGED;22INDEX THUMB ANGLED OUT MIDDLE UP;41IN MIDDLE UP
34CIRCLED MIDDLE UP;28MIDDLE THUMB CONJOINED HINGED;41ANGLED OUT;47
22MIDDLE THUMB ANGLED OUT INDEX UP;52CROSSED;42INDEX UP;22INDEX THUMB HOOKED MIDDLE HINGED
18LAT FOUR FINGERS;34 BENT;35HINGED;35CONJOINED;44 SPLIT;17CLAW FOUR FINGERS CONJOINED
17FIST FOUR FINGERS CONJOINED BENT;17HINGE FOUR FINGERS CONJOINED;17FLAT FIVE FINGERS SPREAD
22HEEL FIVE FINGERS SPREAD;22FIVE FINGERS SPREAD FOUR BENT;22HEEL FIVE FINGERS SPREAD FOUR BENT
22FIVE FINGERS SPREAD BENT;22HEEL FIVE FINGERS SPREAD BENT;22FIVE FINGERS SPREAD THUMB FORWARD
17CUP FIVE FINGERS SPREAD;40 OPEN;17HINGE FIVE FINGERS SPREAD OPEN;17OVAL FIVE FINGERS SPREAD
17FLAT FIVE FINGERS SPREAD HINGED;48 THUMB SIDE;49NO THUMB;21;21 BETWEEN PALM FACINGS;22HEEL
22THUMB SIDE;22HEEL THUMB SIDE;22THUMB BENT;28FORWARD;22SPLIT INDEX THUMB SIDE;28CENTRE
34 THUMB SIDE;45 BENT;28LITTLE;17CLAW;21 THUMB SIDE;22NO THUMB;22THUMB FORWARD;17HOOK CURLICUE;21
17CUP OPEN;20;20 OPEN THUMB SIDE;21THUMB SIDE;21OPEN NO THUMB;21NO THUMB;21OPEN THUMB FORWARD
21THUMB FORWARD;19RLICUE OPEN;25;18IRCLE;17OVAL;21 THUMB SIDE;22NO THUMB;22THUMB FORWARD
17HINGE OPEN;27 THUMB FORWARD;22;22 SMALL;23OPEN THUMB SIDE;23THUMB SIDE;23OPEN NO THUMB
23NO THUMB;23THUMB SIDE TOUCHING INDEX;29BETWEEN MIDDLE RING;17ANGLE;17FIST INDEX MIDDLE RING
17CIRCLE INDEX MIDDLE RING;17HINGE INDEX MIDDLE RING;17ANGLE INDEX MIDDLE RING;17HINGE LITTLE
17FIST INDEX MIDDLE RING BENT;40CONJOINED;17HINGE INDEX MIDDLE RING CONJOINED;17FIST LITTLE DOWN
33 RIPPLE STRAIGHT;41CURVED;34OTHERS CIRCLED;29UP;22THUMB UNDER LITTLE UP;17CIRCLE LITTLE UP
17OVAL LITTLE UP;17ANGLE LITTLE UP;17FIST LITTLE RAISED KNUCKLE;29BENT;29TOUCHES THUMB;30HUMB
17HINGE LITTLE THUMB;17FIST LITTLE INDEX THUMB;17HINGE LITTLE INDEX THUMB
17ANGLE LITTLE INDEX THUMB INDEX THUMB OUT;53;17FIST LITTLE INDEX;17CIRCLE LITTLE INDEX
17HINGE LITTLE INDEX;17ANGLE LITTLE INDEX;17FIST INDEX MIDDLE LITTLE;17CIRCLE INDEX MIDDLE LITTLE
17HINGE INDEX MIDDLE LITTLE;23RING;17ANGLE INDEX MIDDLE LITTLE;17FIST INDEX MIDDLE CROSS LITTLE
17CIRCLE INDEX MIDDLE CROSS LITTLE;17FIST RING DOWN;17HINGE RING DOWN INDEX THUMB HOOK MIDDLE
17ANGLE RING DOWN MIDDLE THUMB INDEX CROSS;17FIST RING UP;27RAISED KNUCKLE;27LITTLE
17CIRCLE RING LITTLE;17OVAL RING LITTLE;17ANGLE RING LITTLE;17FIST RING MIDDLE;33 CONJOINED
34RAISED KNUCKLES;27INDEX;27THUMB;17HOOK RING THUMB;17FIST INDEX RING LITTLE
17CIRCLE INDEX RING LITTLE;18URLICUE INDEX RING LITTLE ON;17HOOK INDEX RING LITTLE OUT;40IN
40UNDER;17CUP INDEX RING LITTLE;17HINGE INDEX RING LITTLE;17ANGLE INDEX RING LITTLE OUT;40
17FIST MIDDLE DOWN;17HINGE MIDDLE;17FIST MIDDLE UP;17CIRCLE MIDDLE UP;17FIST MIDDLE RAISED KNUCKLE
29UP THUMB SIDE;17HOOK MIDDLE THUMB;17FIST MIDDLE THUMB LITTLE;29LITTLE;29RING LITTLE
17CIRCLE MIDDLE RING LITTLE;18URLICUE MIDDLE RING LITTLE ON;19P MIDDLE RING LITTLE
17HINGE MIDDLE RING LITTLE;17ANGLE MIDDLE RING LITTLE OUT;42IN;41;17CIRCLE MIDDLE RING LITTLE BENT
18LAW MIDDLE RING LITTLE CONJOINED;50 SIDE;17HOOK MIDDLE RING LITTLE CONJOINED OUT;51IN;50
18INGE INDEX HINGED;17FIST INDEX THUMB SIDE;17HINGE INDEX THUMB SIDE
17FIST INDEX THUMB SIDE THUMB DIAGONAL;45CONJOINED;45BENT;39INDEX BENT;39BOTH BENT;39INDEX HINGE
34FORWARD INDEX STRAIGHT;48BENT;34HOOK;34CURLICUE;37VE THUMB INSIDE
17CLAW INDEX THUMB CURVE THUMB INSIDE;17FIST INDEX THUMB CURVE THUMB UNDER;35IRCLE
17CUP INDEX THUMB;32 OPEN;17HINGE INDEX THUMB OPEN;35LARGE;34;34 SMALL;17ANGLE INDEX THUMB OUT
35IN;34;17FIST THUMB;27 HEEL;28SIDE DIAGONAL;33CONJOINED;33BENT;28FORWARD;28BETWEEN INDEX MIDDLE
36MIDDLE RING;36RING LITTLE;28UNDER TWO FINGERS;28OVER TWO FINGERS;28UNDER THREE FINGERS
34FOUR FINGERS;28OVER FOUR RAISED KNUCKLES;21;21 HEEL;12TOUCH SINGLE;18MULTIPLE;18BETWEEN
12GRASP SINGLE;18MULTIPLE;18BETWEEN;12STRIKE SINGLE;19MULTIPLE;19BETWEEN;12BRUSH SINGLE;18MULTIPLE
18BETWEEN;12RUB SINGLE;16MULTIPLE;16BETWEEN;12SURFACE SYMBOLS;20BETWEEN;13QUEEZE LARGE SINGLE
20SMALL SINGLE;20LARGE MULTIPLE;20SMALL MULTIPLE;21EQUENTIAL;12FLICK LARGE SINGLE;18SMALL SINGLE
18LARGE MULTIPLE;18SMALL MULTIPLE;19EQUENTIAL;12SQUEEZE FLICK ALTERNATING
12MOVEMENT-HINGE UP DOWN LARGE;35SMALL;30SEQUENTIAL;27DOWN SEQUENTIAL;27UP DOWN ALTERNATING LARGE
47SMALL;27SIDE TO SIDE SCISSORS;21WALLPLANE FINGER CONTACT;21FLOORPLANE FINGER CONTACT
21WALLPLANE SINGLE STRAIGHT SMALL;47MEDIUM;47LARGE;52ST;38WRIST FLEX;31DOUBLE STRAIGHT
38WRIST FLEX;38ALTERNATING;49 WRIST FLEX;31CROSS;31TRIPLE STRAIGHT MOVEMENT;38WRIST FLEX
38ALTERNATING;49 WRIST FLEX;31BEND SMALL;36MEDIUM;36LARGE;31CORNER SMALL;38MEDIUM;38LARGE
38ROTATION;32HECK SMALL;37MEDIUM;37LARGE;31BOX SMALL;35MEDIUM;35LARGE;31ZIGZAG SMALL;38MEDIUM
38LARGE;31PEAKS SMALL;37MEDIUM;37LARGE;12TRAVEL-WALLPLANE ROTATION-WALLPLANE SINGLE;48DOUBLE
48ALTERNATING;38FLOORPLANE SINGLE;49DOUBLE;49ALTERNATING;29SHAKING;29ARM SPIRAL SINGLE;40DOUBLE
40TRIPLE;12MOVEMENT-DIAGONAL AWAY SMALL;35MEDIUM;35LARGE;40ST;30TOWARDS SMALL;38MEDIUM;38LARGE
43ST;30BETWEEN AWAY SMALL;43MEDIUM;43LARGE;48ST;38TOWARDS SMALL;46MEDIUM;46LARGE;51ST
21FLOORPLANE SINGLE STRAIGHT SMALL;48MEDIUM;48LARGE;53ST;39WRIST FLEX;32DOUBLE STRAIGHT
39WRIST FLEX;39ALTERNATING;50 WRIST FLEX;32CROSS;32TRIPLE STRAIGHT MOVEMENT;39WRIST FLEX
39ALTERNATING MOVEMENT;51WRIST FLEX;32BEND;32CORNER SMALL;39MEDIUM;39LARGE;33HECK;32BOX SMALL
36MEDIUM;36LARGE;32ZIGZAG SMALL;39MEDIUM;39LARGE;32PEAKS SMALL;38MEDIUM;38LARGE
12TRAVEL-FLOORPLANE ROTATION-FLOORPLANE SINGLE;50DOUBLE;50ALTERNATING;39WALLPLANE SINGLE;49DOUBLE
49ALTERNATING;30SHAKING;12MOVEMENT-WALLPLANE CURVE QUARTER SMALL;45MEDIUM;45LARGE;50ST
37HALF-CIRCLE SMALL;49MEDIUM;49LARGE;54ST;37THREE-QUARTER CIRCLE SMALL;58MEDIUM;31HUMP SMALL
36MEDIUM;36LARGE;31LOOP SMALL;36MEDIUM;36LARGE;36SMALL DOUBLE;31WAVE CURVE DOUBLE SMALL;49MEDIUM
49LARGE;42TRIPLE SMALL;49MEDIUM;49LARGE;31CURVE THEN STRAIGHT;36D CROSS SMALL;44MEDIUM
12ROTATION-WALLPLANE SINGLE;31DOUBLE;31ALTERNATE;12MOVEMENT-WALLPLANE SHAKING
31CURVE HITTING FRONT WALL;31HUMP HITTING FRONT WALL;31LOOP HITTING FRONT WALL
31WAVE HITTING FRONT WALL;12ROTATION-WALLPLANE SINGLE HITTING FRONT WALL
31DOUBLE HITTING FRONT WALL;31ALTERNATING HITTING FRONT WALL
12MOVEMENT-WALLPLANE CURVE HITTING CHEST;31HUMP HITTING CHEST;31LOOP HITTING CHEST
31WAVE HITTING CHEST;12ROTATION-WALLPLANE SINGLE HITTING CHEST;31DOUBLE HITTING CHEST
31ALTERNATING HITTING CHEST;12MOVEMENT-WALLPLANE WAVE DIAGONAL PATH SMALL;50MEDIUM;50LARGE
21FLOORPLANE CURVE HITTING CEILING SMALL;54LARGE;32HUMP HITTING CEILING SMALL DOUBLE
53LARGE DOUBLE;53SMALL TRIPLE;53LARGE TRIPLE;32LOOP HITTING CEILING SMALL SINGLE;53LARGE SINGLE
53SMALL DOUBLE;53LARGE DOUBLE;32WAVE HITTING CEILING SMALL;53LARGE
12ROTATION-FLOORPLANE SINGLE HITTING CEILING;32DOUBLE HITTING CEILING
32ALTERNATING HITTING CEILING;12MOVEMENT-FLOORPLANE CURVE HITTING FLOOR SMALL;52LARGE
32HUMP HITTING FLOOR SMALL DOUBLE;51LARGE DOUBLE;51TRIPLE SMALL TRIPLE;58LARGE TRIPLE
32LOOP HITTING FLOOR SMALL SINGLE;51LARGE SINGLE;51SMALL DOUBLE;51LARGE DOUBLE
32WAVE HITTING FLOOR SMALL;51LARGE;12ROTATION-FLOORPLANE SINGLE HITTING FLOOR
32DOUBLE HITTING FLOOR;32ALTERNATING HITTING FLOOR;12MOVEMENT-FLOORPLANE CURVE SMALL;38MEDIUM
38LARGE;43ST;38COMBINED;32HUMP SMALL;32LOOP SMALL;32WAVE SNAKE;38MALL;37LARGE
12ROTATION-FLOORPLANE SINGLE;32DOUBLE;32ALTERNATING;12MOVEMENT-FLOORPLANE SHAKING PARALLEL
21WALLPLANE ARM CIRCLE SMALL SINGLE;42MEDIUM SINGLE;42SMALL DOUBLE;42MEDIUM DOUBLE
21FLOORPLANE ARM CIRCLE HITTING WALL SMALL SINGLE;56MEDIUM SINGLE;56LARGE SINGLE;56SMALL DOUBLE
56MEDIUM DOUBLE;56LARGE DOUBLE;21WALLPLANE WRIST CIRCLE FRONT SINGLE;50DOUBLE
21FLOORPLANE WRIST CIRCLE HITTING WALL SINGLE;58DOUBLE;21WALLPLANE FINGER CIRCLES SINGLE;46DOUBLE
21FLOORPLANE FINGER CIRCLES HITTING WALL SINGLE;60DOUBLE;12DYNAMIC ARROWHEAD SMALL;30LARGE;20FAST
20SLOW;20TENSE;20RELAXED;20SIMULTANEOUS;32 ALTERNATING;20EVERY OTHER TIME;20GRADUAL;12HEAD;16 RIM
17MOVEMENT-WALLPLANE STRAIGHT;36TILT;26FLOORPLANE STRAIGHT;26WALLPLANE CURVE;26FLOORPLANE CURVE
25 CIRCLE;12FACE DIRECTION POSITION NOSE FORWARD TILTING;41UP OR DOWN;51 TILTING
12EYEBROWS STRAIGHT UP;30NEUTRAL;30DOWN;12DREAMY EYEBROWS NEUTRAL DOWN;28DOWN NEUTRAL;28UP NEUTRAL
28NEUTRAL UP;12FOREHEAD NEUTRAL;21CONTACT;21WRINKLED;12EYES OPEN;17SQUEEZED;17CLOSED
15 BLINK SINGLE;22MULTIPLE;15S HALF OPEN;17WIDE OPEN;17HALF CLOSED;17WIDENING MOVEMENT;15 WINK
15LASHES UP;22DOWN;22FLUTTERING;15GAZE-WALLPLANE STRAIGHT;38 DOUBLE;39ALTERNATING
20FLOORPLANE STRAIGHT;39 DOUBLE;40ALTERNATING;20WALLPLANE CURVED;20FLOORPLANE CURVED
20WALLPLANE CIRCLING;12CHEEKS PUFFED;19NEUTRAL;19SUCKED;12TENSE CHEEKS HIGH;25MIDDLE;25LOW;12EARS
12NOSE NEUTRAL;17CONTACT;17WRINKLES;18IGGLES;12AIR BLOWING OUT;16SUCKING IN;16BLOW SMALL ROTATIONS
16SUCK SMALL ROTATIONS;12BREATH INHALE;19EXHALE;12MOUTH CLOSED NEUTRAL;25FORWARD;25CONTACT;18SMILE
23 WRINKLED;24OPEN;18FROWN;23 WRINKLED;24OPEN;18OPEN CIRCLE;23FORWARD;23WRINKLED;23OVAL
27 WRINKLED;28YAWN;23RECTANGLE;32 WRINKLED;33YAWN;18KISS;22 FORWARD;23WRINKLED;18TENSE;23 FORWARD
24SUCKED;12LIPS PRESSED TOGETHER;15 LOWER OVER UPPER;16UPPER OVER LOWER;12MOUTH CORNERS
18WRINKLES SINGLE;27DOUBLE;12TONGUE STICKING OUT FAR;19LICKING LIPS;19TIP BETWEEN LIPS
23TOUCHING INSIDE MOUTH;19INSIDE MOUTH RELAXED;19MOVES AGAINST CHEEK;19CENTRE STICKING OUT
26INSIDE MOUTH;13EETH;17 MOVEMENT;18ON TONGUE;27 MOVEMENT;21LIPS;25 MOVEMENT;18BITE LIPS
12MOVEMENT-WALLPLANE JAW;21FLOORPLANE JAW;12NECK;12HAIR;12EXCITEMENT;12SHOULDER HIP SPINE
25POSITIONS;12WALLPLANE SHOULDER HIP MOVE;12FLOORPLANE SHOULDER HIP MOVE
12SHOULDER TILTING FROM WAIST;12TORSO-WALLPLANE STRAIGHT STRETCH;28CURVED BEND
18FLOORPLANE TWISTING;12UPPER BODY TILTING FROM HIP JOINTS;12LIMB COMBINATION;17LENGTH-1;242;243
244;245;246;247;12FINGER;12LOCATION-WALLPLANE SPACE;21FLOORPLANE SPACE;20 HEIGHT;21WIDTH;21DEPTH
21HEAD NECK;21TORSO;21LIMBS DIGITS;12COMMA;12FULL STOP;12SEMICOLON;12COLON;12PARENTHESIS;+1DA9B
12FILL MODIFIER-2;263;264;265;266;+1DAA1;12ROTATION MODIFIER-2;303;304;305;306;307;308;309;3010
311;312;313;314;315;316;+1DF00;00LATIN SMALL LETTER FENG DIGRAPH WITH TRILL;19REVERSED SCRIPT G
06LETTER SMALL CAPITAL TURNED G;06SMALL LETTER REVERSED K;06LETTER SMALL CAPITAL L WITH BELT
06SMALL LETTER LEZH WITH RETROFLEX HOOK;19TURNED Y WITH BELT;19REVERSED ENG
19TURNED R WITH LONG LEG AND RETROFLEX HOOK;20 WITH HOOK AND RETROFLEX HOOK
06LETTER RETROFLEX CLICK WITH RETROFLEX HOOK;06SMALL LETTER ESH WITH DOUBLE BAR;38 AND CURL
19TURNED T WITH CURL;06LETTER INVERTED GLOTTAL STOP WITH CURL;13STRETCHED C WITH CURL
14MALL CAPITAL TURNED K;06SMALL LETTER L WITH FISHHOOK;19DEZH DIGRAPH WITH PALATAL HOOK
19L WITH BELT AND PALATAL HOOK;19ENG WITH PALATAL HOOK;19TURNED R WITH PALATAL HOOK
19R WITH FISHHOOK AND PALATAL HOOK;19TESH DIGRAPH WITH PALATAL HOOK;19EZH WITH PALATAL HOOK
19DEZH DIGRAPH WITH RETROFLEX HOOK;19I WITH STROKE AND RETROFLEX HOOK;19O WITH RETROFLEX HOOK
19TESH DIGRAPH WITH RETROFLEX HOOK;19C WITH RETROFLEX HOOK;19S WITH CURL;+1E000
00COMBINING GLAGOLITIC LETTER AZU;28BUKY;28VEDE;28GLAGOLI;28DOBRO;28YESTU;28ZHIVETE;+1E008;29EMLJA
28IZHE;29NITIAL IZHE;29;28DJERVI;28KAKO;28LJUDIJE;28MYSLITE;28NASHI;28ONU;28POKOJI;28RITSI;28SLOVO
28TVRIDO;28UKU;28FRITU;28HERU;+1E01B;28SHTA;28TSI;28CHRIVI;28SHA;28YERU;31I;29ATI;+1E023;29U
28SMALL YUS;+1E026;28YO;28IOTATED SMALL YUS;28BIG YUS;28IOTATED BIG YUS;28FITA;+1E100
00NYIAKENG PUACHUE HMONG LETTER MA;30TSA;30NTA;30TA;30HA;30NA;30XA;30NKA;30CA;30LA;30SA;30ZA;30NCA
31TSA;30KA;30DA;30NYA;31RA;30VA;30NTXA;30TXA;30FA;30RA;30QA;30YA;30NQA;30PA;30XYA;30NPA;30DLA
30NPLA;30HAH;30MLA;30PLA;30GA;30RRA;30A;31A;30I;30U;30O;31O;30E;31E;30W;+1E130;23TONE-B;28M;28J
28V;28S;28G;28D;23SIGN FOR PERSON;32THING;32LOCATION;32ANIMAL;32INVERTEBRATE;28XW XW
24YLLABLE LENGTHENER;+1E140;23DIGIT ZERO;29ONE;29TWO;30HREE;29FOUR;30IVE;29SIX;30EVEN;29EIGHT
29NINE;+1E14E;23LOGOGRAM NYAJ;23CIRCLED CA;+1E290;00TOTO LETTER PA;12BA;12TA;12DA;12KA;12GA;12MA
12NA;13GA;12SA;12CHA;12YA;12WA;12JA;12HA;12RA;12LA;12I;12BREATHY I;12IU;12BREATHY IU;12U;12E
12BREATHY E;12EO;12BREATHY EO;12O;12AE;12BREATHY AE;12A;05SIGN RISING TONE;+1E2C0
00WANCHO LETTER AA;15;14BA;14CA;14DA;14GA;14YA;14PHA;14LA;14NA;14PA;14TA;15HA;14FA;14SA;15HA;14JA
14ZA;14WA;14VA;14KA;14O;14AU;14RA;14MA;14KHA;14HA;14E;14I;14NGA;14U;14LLHA;14TSA;15RA;14ONG;14AANG
15NG;14ING;14ON;14EN;14AAN;14NYA;14UEN;14YIH;07TONE TUP;15NI;12KOI;15NI;07DIGIT ZERO;13ONE;13TWO
14HREE;13FOUR;14IVE;13SIX;14EVEN;13EIGHT;13NINE;+1E2FF;07NGUN SIGN;+1E7E0;00ETHIOPIC SYLLABLE HHYA
21U;21I;21AA;21EE;22;21O;+1E7E8;18GURAGE HHWA;18HHWI;21EE;22;+1E7ED;18GURAGE MWI;27EE;+1E7F0;25QWI
27EE;28;25BWI;27EE;25KWI;27EE;28;25GWI;27EE;28;25FWI;27EE;25PWI;27EE;+1E800
00MENDE KIKAKUI SYLLABLE M001 KI;262 KA;263 KU;2565 KEE;2595 KE;2576 KOO;2548 KO;24179 KUA
24004 WI;265 WA;266 WU;24126 WEE;2518 WE;264 WOO;24045 WO;24194 WUI;2543 WEI;24061 WVI;2549 WVA
24139 WVE;24007 MIN;268 MAN;269 MUN;2559 MEN;2594 MON;24154 MUAN;2589 MUEN;24010 BI;261 BA;262 BU
24150 BEE;24097 BE;24103 BOO;2538 BO;24013 I;264 A;265 U;24163 EE;2500 E;2565 OO;2547 O;2537 EI
261 IN;265 IN;2595 AN;2578 EN;24019 SI;2520 SA;261 SU;24162 SEE;2516 SE;2536 SOO;24079 SO
24196 SIA;24025 LI;266 LA;267 LU;2584 LEE;2573 LE;2554 LOO;24153 LO;2510 LONG LE;24016 DI;267 DA
268 DU;2589 DEE;24180 DOO;261 DO;24022 TI;263 TA;264 TU;2591 TEE;2555 TE;24104 TOO;24069 TO
2528 JI;269 JA;2530 JU;24157 JEE;2513 JE;2560 JOO;24063 JO;24175 LONG JO;24031 YI;262 YA;263 YU
24109 YEE;24080 YE;24141 YOO;2521 YO;24034 FI;265 FA;266 FU;2578 FEE;265 FE;24133 FOO;24088 FO
24197 FUA;2501 FAN;24037 NIN;268 NAN;269 NUN;24117 NEN;2569 NON;2576 HI;24041 HA;24186 HU
24040 HEE;2596 HE;2542 HOO;24140 HO;24083 HEEI;24128 HOOU;24053 HIN;24130 HAN;24087 HUN;2552 HEN
24193 HON;24046 HUAN;2590 NGGI;2543 NGGA;2582 NGGU;24115 NGGEE;2546 NGGE;2556 NGGOO;2520 NGGO
2559 NGGAA;2527 NGGUA;24086 LONG NGGE;24106 LONG NGGOO;2583 LONG NGGO;2555 GI;2511 GA;2568 GU
2590 GEE;2566 GUEI;267 GUAN;2584 NGEN;24057 NGON;24177 NGUAN;24068 PI;2599 PA;2550 PU;2581 PEE
2551 PE;24102 POO;24066 PO;24145 MBI;24062 MBA;24122 MBU;24047 MBEE;24188 MBEE;24072 MBE
24172 MBOO;264 MBO;2587 MBUU;2561 LONG MBE;2505 LONG MBOO;2542 LONG MBO;2532 KPI;24092 KPA
2574 KPU;2544 KPEE;24108 KPE;2512 KPOO;2558 KPO;2524 GBI;24056 GBA;24148 GBU;24093 GBEE;24107 GBE
24071 GBOO;260 GBO;24171 RA;2523 NDI;269 NDA;265 NDU;2591 NDEE;2519 NDE;24067 NDOO;264 NDO
24152 NJA;2592 NJU;2549 NJEE;2534 NJOO;2582 VI;265 VA;2551 VU;2573 VEE;24085 VE;24144 VOO;24077 VO
24164 NYIN;24058 NYAN;24170 NYUN;24098 NYEN;2560 NYON;+1E8C7;14DIGIT ONE;20TWO;21HREE;20FOUR;21IVE
20SIX;21EVEN;20EIGHT;20NINE;14COMBINING NUMBER TEENS;33NS;31HUNDREDS;31THOUSANDS;32EN THOUSANDS
31HUNDRED THOUSANDS;31MILLIONS;+1E900;00ADLAM CAPITAL LETTER ALIF;21DAALI;21LAAM;21MIIM;21BA
21SINNYIIYHE;21PE;21BHE;21RA;21E;21FA;21I;21O;21DHA;21YHE;21WAW;21NUN;21KAF;21YA;21U;21JIIM;21CHI
21HA;21QAAF;21GA;21NYA;21TU;21NHA;21VA;21KHA;21GBE;21ZAL;21KPO;21SHA;06SMALL LETTER ALIF;19DAALI
19LAAM;19MIIM;19BA;19SINNYIIYHE;19PE;19BHE;19RA;19E;19FA;19I;19O;19DHA;19YHE;19WAW;19NUN;19KAF
19YA;19U;19JIIM;19CHI;19HA;19QAAF;19GA;19NYA;19TU;19NHA;19VA;19KHA;19GBE;19ZAL;19KPO;19SHA
06ALIF LENGTHENER;06VOWEL LENGTHENER;06GEMINATION MARK;06HAMZA;06CONSONANT MODIFIER
06GEMINATE CONSONANT MODIFIER;06NUKTA;07ASALIZATION MARK;+1E950;06DIGIT ZERO;12ONE;12TWO;13HREE
12FOUR;13IVE;12SIX;13EVEN;12EIGHT;12NINE;+1E95E;06INITIAL EXCLAMATION MARK;14QUESTION MARK;+1EC71
00INDIC SIYAQ NUMBER ONE;19TWO;20HREE;19FOUR;20IVE;19SIX;20EVEN;19EIGHT;19NINE;19TEN;20WENTY
20HIRTY;19FORTY;20IFTY;19SIXTY;20EVENTY;19EIGHTY;19NINETY;19ONE HUNDRED;19TWO HUNDRED
20HREE HUNDRED;19FOUR HUNDRED;20IVE HUNDRED;19SIX HUNDRED;20EVEN HUNDRED;19EIGHT HUNDRED
19NINE HUNDRED;19ONE THOUSAND;19TWO THOUSAND;20HREE THOUSAND;19FOUR THOUSAND;20IVE THOUSAND
19SIX THOUSAND;20EVEN THOUSAND;19EIGHT THOUSAND;19NINE THOUSAND;19TEN THOUSAND;20WENTY THOUSAND
20HIRTY THOUSAND;19FORTY THOUSAND;20IFTY THOUSAND;19SIXTY THOUSAND;20EVENTY THOUSAND
19EIGHTY THOUSAND;19NINETY THOUSAND;19LAKH;23AN;12LAKH MARK;12NUMBER KAROR;24AN;19PREFIXED ONE
28TWO;29HREE;28FOUR;29IVE;28SIX;29EVEN;28EIGHT;28NINE;12PLACEHOLDER;12FRACTION ONE QUARTER;25HALF
21THREE QUARTERS;12RUPEE MARK;12NUMBER ALTERNATE ONE;29TWO;30EN THOUSAND;12ALTERNATE LAKH MARK
+1ED01;00OTTOMAN SIYAQ NUMBER ONE;21TWO;22HREE;21FOUR;22IVE;21SIX;22EVEN;21EIGHT;21NINE;21TEN
22WENTY;22HIRTY;21FORTY;22IFTY;21SIXTY;22EVENTY;21EIGHTY;21NINETY;21ONE HUNDRED;21TWO HUNDRED
22HREE HUNDRED;21FOUR HUNDRED;22IVE HUNDRED;21SIX HUNDRED;22EVEN HUNDRED;21EIGHT HUNDRED
21NINE HUNDRED;21ONE THOUSAND;21TWO THOUSAND;22HREE THOUSAND;21FOUR THOUSAND;22IVE THOUSAND
21SIX THOUSAND;22EVEN THOUSAND;21EIGHT THOUSAND;21NINE THOUSAND;21TEN THOUSAND;22WENTY THOUSAND
22HIRTY THOUSAND;21FORTY THOUSAND;22IFTY THOUSAND;21SIXTY THOUSAND;22EVENTY THOUSAND
21EIGHTY THOUSAND;21NINETY THOUSAND;14MARRATAN;14ALTERNATE NUMBER TWO;32HREE;31FOUR;32IVE;31SIX
32EVEN;31EIGHT;31NINE;31TEN;31FOUR HUNDRED;31SIX HUNDRED;31TWO THOUSAND;32EN THOUSAND
14FRACTION ONE HALF;27SIXTH;+1EE00;00ARABIC MATHEMATICAL ALEF;20BEH;20JEEM;20DAL;+1EE05;20WAW
20ZAIN;20HAH;20TAH;20YEH;20KAF;20LAM;20MEEM;20NOON;20SEEN;20AIN;20FEH;20SAD;20QAF;20REH;20SHEEN
20TEH;21HEH;20KHAH;20THAL;20DAD;20ZAH;20GHAIN;20DOTLESS BEH;28NOON;28FEH;28QAF;+1EE21
20INITIAL BEH;28JEEM;+1EE24;28HEH;+1EE27;29AH;+1EE29;28YEH;28KAF;28LAM;28MEEM;28NOON;28SEEN;28AIN
28FEH;28SAD;28QAF;+1EE34;28SHEEN;28TEH;29HEH;28KHAH;+1EE39;28DAD;+1EE3B;28GHAIN;+1EE42
20TAILED JEEM;+1EE47;27HAH;+1EE49;27YEH;+1EE4B;27LAM;+1EE4D;27NOON;27SEEN;27AIN;+1EE51;27SAD;27QAF
+1EE54;27SHEEN;+1EE57;27KHAH;+1EE59;27DAD;+1EE5B;27GHAIN;+1EE5D;27DOTLESS NOON;+1EE5F;35QAF;+1EE61
20STRETCHED BEH;30JEEM;+1EE64;30HEH;+1EE67;31AH;30TAH;30YEH;30KAF;+1EE6C;30MEEM;30NOON;30SEEN
30AIN;30FEH;30SAD;30QAF;+1EE74;30SHEEN;30TEH;31HEH;30KHAH;+1EE79;30DAD;30ZAH;30GHAIN;30DOTLESS BEH
+1EE7E;38FEH;+1EE80;20LOOPED ALEF;27BEH;27JEEM;27DAL;27HEH;27WAW;27ZAIN;27HAH;27TAH;27YEH;+1EE8B
27LAM;27MEEM;27NOON;27SEEN;27AIN;27FEH;27SAD;27QAF;27REH;27SHEEN;27TEH;28HEH;27KHAH;27THAL;27DAD
27ZAH;27GHAIN;+1EEA1;20DOUBLE-STRUCK BEH;34JEEM;34DAL;+1EEA5;34WAW;34ZAIN;34HAH;34TAH;34YEH;+1EEAB
34LAM;34MEEM;34NOON;34SEEN;34AIN;34FEH;34SAD;34QAF;34REH;34SHEEN;34TEH;35HEH;34KHAH;34THAL;34DAD
34ZAH;34GHAIN;+1EEF0;20OPERATOR MEEM WITH HAH WITH TATWEEL;29HAH WITH DAL;+1F000
00MAHJONG TILE EAST WIND;13SOUTH WIND;13WEST WIND;13NORTH WIND;13RED DRAGON;13GREEN DRAGON
13WHITE DRAGON;13ONE OF CHARACTERS;13TWO OF CHARACTERS;14HREE OF CHARACTERS;13FOUR OF CHARACTERS
14IVE OF CHARACTERS;13SIX OF CHARACTERS;14EVEN OF CHARACTERS;13EIGHT OF CHARACTERS
13NINE OF CHARACTERS;13ONE OF BAMBOOS;13TWO OF BAMBOOS;14HREE OF BAMBOOS;13FOUR OF BAMBOOS
14IVE OF BAMBOOS;13SIX OF BAMBOOS;14EVEN OF BAMBOOS;13EIGHT OF BAMBOOS;13NINE OF BAMBOOS
13ONE OF CIRCLES;13TWO OF CIRCLES;14HREE OF CIRCLES;13FOUR OF CIRCLES;14IVE OF CIRCLES
13SIX OF CIRCLES;14EVEN OF CIRCLES;13EIGHT OF CIRCLES;13NINE OF CIRCLES;13PLUM;13ORCHID;13BAMBOO
13CHRYSANTHEMUM;13SPRING;14UMMER;13AUTUMN;13WINTER;13JOKER;13BACK;+1F030
00DOMINO TILE HORIZONTAL BACK;22-00-00;271;272;273;274;275;276;241-00;271;272;273;274;275;276
242-00;271;272;273;274;275;276;243-00;271;272;273;274;275;276;244-00;271;272;273;274;275;276
245-00;271;272;273;274;275;276;246-00;271;272;273;274;275;276;12VERTICAL BACK;20-00-00;251;252;253
254;255;256;221-00;251;252;253;254;255;256;222-00;251;252;253;254;255;256;223-00;251;252;253;254
255;256;224-00;251;252;253;254;255;256;225-00;251;252;253;254;255;256;226-00;251;252;253;254;255
256;+1F0A0;00PLAYING CARD BACK;13ACE OF SPADES;13TWO OF SPADES;14HREE OF SPADES;13FOUR OF SPADES
14IVE OF SPADES;13SIX OF SPADES;14EVEN OF SPADES;13EIGHT OF SPADES;13NINE OF SPADES
13TEN OF SPADES;13JACK OF SPADES;13KNIGHT OF SPADES;13QUEEN OF SPADES;13KING OF SPADES;+1F0B1
13ACE OF HEARTS;13TWO OF HEARTS;14HREE OF HEARTS;13FOUR OF HEARTS;14IVE OF HEARTS;13SIX OF HEARTS
14EVEN OF HEARTS;13EIGHT OF HEARTS;13NINE OF HEARTS;13TEN OF HEARTS;13JACK OF HEARTS
13KNIGHT OF HEARTS;13QUEEN OF HEARTS;13KING OF HEARTS;13RED JOKER;+1F0C1;13ACE OF DIAMONDS
13TWO OF DIAMONDS;14HREE OF DIAMONDS;13FOUR OF DIAMONDS;14IVE OF DIAMONDS;13SIX OF DIAMONDS
14EVEN OF DIAMONDS;13EIGHT OF DIAMONDS;13NINE OF DIAMONDS;13TEN OF DIAMONDS;13JACK OF DIAMONDS
13KNIGHT OF DIAMONDS;13QUEEN OF DIAMONDS;13KING OF DIAMONDS;13BLACK JOKER;+1F0D1;13ACE OF CLUBS
13TWO OF CLUBS;14HREE OF CLUBS;13FOUR OF CLUBS;14IVE OF CLUBS;13SIX OF CLUBS;14EVEN OF CLUBS
13EIGHT OF CLUBS;13NINE OF CLUBS;13TEN OF CLUBS;13JACK OF CLUBS;13KNIGHT OF CLUBS;13QUEEN OF CLUBS
13KING OF CLUBS;13WHITE JOKER;13FOOL;13TRUMP-1;192;193;194;195;196;197;198;199;1910;201;202;203
204;205;206;207;208;209;1920;201;+1F100;00DIGIT ZERO FULL STOP;11COMMA;06ONE COMMA;06TWO COMMA
07HREE COMMA;06FOUR COMMA;07IVE COMMA;06SIX COMMA;07EVEN COMMA;06EIGHT COMMA;06NINE COMMA
02NGBAT CIRCLED SANS-SERIF DIGIT ZERO;08NEGATIVE CIRCLED SANS-SERIF DIGIT ZERO
00CIRCLED ZERO WITH SLASH;08ANTICLOCKWISE ARROW;08DOLLAR SIGN WITH OVERLAID BACKSLASH
00PARENTHESIZED LATIN CAPITAL LETTER A;35B;35C;35D;35E;35F;35G;35H;35I;35J;35K;35L;35M;35N;35O;35P
35Q;35R;35S;35T;35U;35V;35W;35X;35Y;35Z;00TORTOISE SHELL BRACKETED LATIN CAPITAL LETTER S
00CIRCLED ITALIC LATIN CAPITAL LETTER C;36R;08CD;08WZ;01OPYLEFT SYMBOL
00SQUARED LATIN CAPITAL LETTER A;29B;29C;29D;29E;29F;29G;29H;29I;29J;29K;29L;29M;29N;29O;29P;29Q
29R;29S;29T;29U;29V;29W;29X;29Y;29Z;08HV;08MV;08SD;09S;08PPV;08WC
00NEGATIVE CIRCLED LATIN CAPITAL LETTER A;38B;38C;38D;38E;38F;38G;38H;38I;38J;38K;38L;38M;38N;38O
38P;38Q;38R;38S;38T;38U;38V;38W;38X;38Y;38Z;00RAISED MC SIGN;08D SIGN;08R SIGN;00CIRCLED CC
09 WITH OVERLAID BACKSLASH;08HUMAN FIGURE;00NEGATIVE SQUARED LATIN CAPITAL LETTER A;38B;38C;38D
38E;38F;38G;38H;38I;38J;38K;38L;38M;38N;38O;38P;38Q;38R;38S;38T;38U;38V;38W;38X;38Y;38Z
00CROSSED NEGATIVE SQUARED LATIN CAPITAL LETTER P;00NEGATIVE SQUARED IC;17PA;17SA;17AB;17WC
00SQUARE DJ;06D CL;09OOL;08FREE;08ID;08NEW;09G;08OK;08SOS;08UP WITH EXCLAMATION MARK;08VS
08THREE D;08SECOND SCREEN;08TWO K;08FOUR K;08EIGHT K;08FIVE POINT ONE;08SEVEN POINT ONE
08TWENTY-TWO POINT TWO;08SIXTY P;08ONE HUNDRED TWENTY P;08LATIN SMALL LETTER D;08HC;09DR;09I-RES
08LOSSLESS;08SHV;08UHD;08VOD;00MASK WORK SYMBOL;+1F1E6;00REGIONAL INDICATOR SYMBOL LETTER A;33B
33C;33D;33E;33F;33G;33H;33I;33J;33K;33L;33M;33N;33O;33P;33Q;33R;33S;33T;33U;33V;33W;33X;33Y;33Z
00SQUARE HIRAGANA HOKA;06D KATAKANA KOKO;17SA;+1F210;08CJK UNIFIED IDEOGRAPH-624B;305B57;313CC
08KATAKANA DE;08CJK UNIFIED IDEOGRAPH-4E8C;30591A;3089E3;305929;304EA4;306620;307121;306599;30524D
31F8C;3118D;3065B0;30521D;307D42;3151F;308CA9;3058F0;31439;306F14;31295;31355;304E00;339;30904A
305DE6;304E2D;3053F3;306307;308D70;306253;307981;31A7A;305408;306E80;31709;338;307533;305272;315B6
30914D;+1F240;00TORTOISE SHELL BRACKETED CJK UNIFIED IDEOGRAPH-672C;474E09;498C;475B89;4770B9
476253;4776D7;4752DD;476557;+1F250;00CIRCLED IDEOGRAPH ADVANTAGE;19CCEPT;+1F260
00ROUNDED SYMBOL FOR FU;19LU;19SHOU;19XI;19SHUANGXI;19CAI;+1F300;00CYCLONE;00FOGGY
00CLOSED UMBRELLA;00NIGHT WITH STARS;00SUNRISE OVER MOUNTAINS;07;00CITYSCAPE AT DUSK
00SUNSET OVER BUILDINGS;00RAINBOW;00BRIDGE AT NIGHT;00WATER WAVE;00VOLCANO;00MILKY WAY
00EARTH GLOBE EUROPE-AFRICA;12AMERICAS;13SIA-AUSTRALIA;00GLOBE WITH MERIDIANS;00NEW MOON SYMBOL
00WAXING CRESCENT MOON SYMBOL;00FIRST QUARTER MOON SYMBOL;00WAXING GIBBOUS MOON SYMBOL
00FULL MOON SYMBOL;00WANING GIBBOUS MOON SYMBOL;00LAST QUARTER MOON SYMBOL
00WANING CRESCENT MOON SYMBOL;00CRESCENT MOON;00NEW MOON WITH FACE;00FIRST QUARTER MOON WITH FACE
00LAST QUARTER MOON WITH FACE;00FULL MOON WITH FACE;00SUN WITH FACE;00GLOWING STAR;00SHOOTING STAR
00THERMOMETER;00BLACK DROPLET;00WHITE SUN;09 WITH SMALL CLOUD;10BEHIND CLOUD;22 WITH RAIN
00CLOUD WITH RAIN;11SNOW;11LIGHTNING;11TORNADO;00FOG;00WIND BLOWING FACE;00HOT DOG;00TACO
00BURRITO;00CHESTNUT;00SEEDLING;00EVERGREEN TREE;00DECIDUOUS TREE;00PALM TREE;00CACTUS
00HOT PEPPER;00TULIP;00CHERRY BLOSSOM;00ROSE;00HIBISCUS;00SUNFLOWER;00BLOSSOM;00EAR OF MAIZE
07RICE;00HERB;00FOUR LEAF CLOVER;00MAPLE LEAF;00FALLEN LEAF;00LEAF FLUTTERING IN WIND;00MUSHROOM
00TOMATO;00AUBERGINE;00GRAPES;00MELON;00WATERMELON;00TANGERINE;00LEMON;00BANANA;00PINEAPPLE
00RED APPLE;00GREEN APPLE;00PEAR;03CH;00CHERRIES;00STRAWBERRY;00HAMBURGER;00SLICE OF PIZZA
00MEAT ON BONE;00POULTRY LEG;00RICE CRACKER;05BALL;00COOKED RICE;01URRY AND RICE;00STEAMING BOWL
01PAGHETTI;00BREAD;00FRENCH FRIES;00ROASTED SWEET POTATO;00DANGO;00ODEN;00SUSHI;00FRIED SHRIMP
01ISH CAKE WITH SWIRL DESIGN;00SOFT ICE CREAM;01HAVED ICE;00ICE CREAM;00DOUGHNUT;00COOKIE
01HOCOLATE BAR;01ANDY;00LOLLIPOP;00CUSTARD;00HONEY POT;00SHORTCAKE;00BENTO BOX;00POT OF FOOD
00COOKING;00FORK AND KNIFE;00TEACUP WITHOUT HANDLE;00SAKE BOTTLE AND CUP;00WINE GLASS
00COCKTAIL GLASS;00TROPICAL DRINK;00BEER MUG;00CLINKING BEER MUGS;00BABY BOTTLE
00FORK AND KNIFE WITH PLATE;00BOTTLE WITH POPPING CORK;00POPCORN;00RIBBON;00WRAPPED PRESENT
00BIRTHDAY CAKE;00JACK-O-LANTERN;00CHRISTMAS TREE;00FATHER CHRISTMAS;01IREWORKS;08 SPARKLER
00BALLOON;00PARTY POPPER;00CONFETTI BALL;00TANABATA TREE;00CROSSED FLAGS;00PINE DECORATION
00JAPANESE DOLLS;00CARP STREAMER;00WIND CHIME;00MOON VIEWING CEREMONY;00SCHOOL SATCHEL
00GRADUATION CAP;00HEART WITH TIP ON THE LEFT;00BOUQUET OF FLOWERS;00MILITARY MEDAL
00REMINDER RIBBON;00MUSICAL KEYBOARD WITH JACKS;00STUDIO MICROPHONE;00LEVEL SLIDER;00CONTROL KNOBS
00BEAMED ASCENDING MUSICAL NOTES;07DESCENDING MUSICAL NOTES;00FILM FRAMES;00ADMISSION TICKETS
00CAROUSEL HORSE;00FERRIS WHEEL;00ROLLER COASTER;00FISHING POLE AND FISH;00MICROPHONE
01OVIE CAMERA;00CINEMA;00HEADPHONE;00ARTIST PALETTE;00TOP HAT;00CIRCUS TENT;00TICKET
00CLAPPER BOARD;00PERFORMING ARTS;00VIDEO GAME;00DIRECT HIT;00SLOT MACHINE;00BILLIARDS;00GAME DIE
00BOWLING;00FLOWER PLAYING CARDS;00MUSICAL NOTE;02LTIPLE MUSICAL NOTES;00SAXOPHONE;00GUITAR
00MUSICAL KEYBOARD;00TRUMPET;00VIOLIN;00MUSICAL SCORE;00RUNNING SHIRT WITH SASH
00TENNIS RACQUET AND BALL;00SKI AND SKI BOOT;00BASKETBALL AND HOOP;00CHEQUERED FLAG;00SNOWBOARDER
00RUNNER;00SURFER;01PORTS MEDAL;00TROPHY;00HORSE RACING;00AMERICAN FOOTBALL;00RUGBY FOOTBALL
00SWIMMER;00WEIGHT LIFTER"

end EachSubject.Text.CharacterName

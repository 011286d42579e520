/-!
# Names of characters from U+0020 on

The names are written as `CharacterName` reads them.
-/

namespace EachSubject.Text.CharacterName

/-- The names of the characters from U+0020 on. -/
def blockOne : String := "+20;00SPACE;00EXCLAMATION MARK;00QUOTATION MARK;00NUMBER SIGN;00DOLLAR SIGN;00PERCENT SIGN
00AMPERSAND;01POSTROPHE;00LEFT PARENTHESIS;00RIGHT PARENTHESIS;00ASTERISK;00PLUS SIGN;00COMMA
00HYPHEN-MINUS;00FULL STOP;00SOLIDUS;00DIGIT ZERO;06ONE;06TWO;07HREE;06FOUR;07IVE;06SIX;07EVEN
06EIGHT;06NINE;00COLON;00SEMICOLON;00LESS-THAN SIGN;00EQUALS SIGN;00GREATER-THAN SIGN
00QUESTION MARK;00COMMERCIAL AT;00LATIN CAPITAL LETTER A;21B;21C;21D;21E;21F;21G;21H;21I;21J;21K
21L;21M;21N;21O;21P;21Q;21R;21S;21T;21U;21V;21W;21X;21Y;21Z;01EFT SQUARE BRACKET;00REVERSE SOLIDUS
01IGHT SQUARE BRACKET;00CIRCUMFLEX ACCENT;00LOW LINE;00GRAVE ACCENT;00LATIN SMALL LETTER A;19B;19C
19D;19E;19F;19G;19H;19I;19J;19K;19L;19M;19N;19O;19P;19Q;19R;19S;19T;19U;19V;19W;19X;19Y;19Z
01EFT CURLY BRACKET;00VERTICAL LINE;00RIGHT CURLY BRACKET;00TILDE;+A0;00NO-BREAK SPACE
00INVERTED EXCLAMATION MARK;00CENT SIGN;00POUND SIGN;00CURRENCY SIGN;00YEN SIGN;00BROKEN BAR
00SECTION SIGN;00DIAERESIS;00COPYRIGHT SIGN;00FEMININE ORDINAL INDICATOR
00LEFT-POINTING DOUBLE ANGLE QUOTATION MARK;00NOT SIGN;00SOFT HYPHEN;00REGISTERED SIGN;00MACRON
00DEGREE SIGN;00PLUS-MINUS SIGN;00SUPERSCRIPT TWO;13HREE;00ACUTE ACCENT;00MICRO SIGN
00PILCROW SIGN;00MIDDLE DOT;00CEDILLA;00SUPERSCRIPT ONE;00MASCULINE ORDINAL INDICATOR
00RIGHT-POINTING DOUBLE ANGLE QUOTATION MARK;00VULGAR FRACTION ONE QUARTER;20HALF;16THREE QUARTERS
00INVERTED QUESTION MARK;00LATIN CAPITAL LETTER A WITH GRAVE;28ACUTE;28CIRCUMFLEX;28TILDE
28DIAERESIS;28RING ABOVE;22E;21C WITH CEDILLA;21E WITH GRAVE;28ACUTE;28CIRCUMFLEX;28DIAERESIS
21I WITH GRAVE;28ACUTE;28CIRCUMFLEX;28DIAERESIS;21ETH;21N WITH TILDE;21O WITH GRAVE;28ACUTE
28CIRCUMFLEX;28TILDE;28DIAERESIS;00MULTIPLICATION SIGN;00LATIN CAPITAL LETTER O WITH STROKE
21U WITH GRAVE;28ACUTE;28CIRCUMFLEX;28DIAERESIS;21Y WITH ACUTE;21THORN;06SMALL LETTER SHARP S
19A WITH GRAVE;26ACUTE;26CIRCUMFLEX;26TILDE;26DIAERESIS;26RING ABOVE;20E;19C WITH CEDILLA
19E WITH GRAVE;26ACUTE;26CIRCUMFLEX;26DIAERESIS;19I WITH GRAVE;26ACUTE;26CIRCUMFLEX;26DIAERESIS
19ETH;19N WITH TILDE;19O WITH GRAVE;26ACUTE;26CIRCUMFLEX;26TILDE;26DIAERESIS;00DIVISION SIGN
00LATIN SMALL LETTER O WITH STROKE;19U WITH GRAVE;26ACUTE;26CIRCUMFLEX;26DIAERESIS;19Y WITH ACUTE
19THORN;19Y WITH DIAERESIS;06CAPITAL LETTER A WITH MACRON;06SMALL LETTER A WITH MACRON
06CAPITAL LETTER A WITH BREVE;06SMALL LETTER A WITH BREVE;06CAPITAL LETTER A WITH OGONEK
06SMALL LETTER A WITH OGONEK;06CAPITAL LETTER C WITH ACUTE;06SMALL LETTER C WITH ACUTE
06CAPITAL LETTER C WITH CIRCUMFLEX;06SMALL LETTER C WITH CIRCUMFLEX
06CAPITAL LETTER C WITH DOT ABOVE;06SMALL LETTER C WITH DOT ABOVE;06CAPITAL LETTER C WITH CARON
06SMALL LETTER C WITH CARON;06CAPITAL LETTER D WITH CARON;06SMALL LETTER D WITH CARON
06CAPITAL LETTER D WITH STROKE;06SMALL LETTER D WITH STROKE;06CAPITAL LETTER E WITH MACRON
06SMALL LETTER E WITH MACRON;06CAPITAL LETTER E WITH BREVE;06SMALL LETTER E WITH BREVE
06CAPITAL LETTER E WITH DOT ABOVE;06SMALL LETTER E WITH DOT ABOVE;06CAPITAL LETTER E WITH OGONEK
06SMALL LETTER E WITH OGONEK;06CAPITAL LETTER E WITH CARON;06SMALL LETTER E WITH CARON
06CAPITAL LETTER G WITH CIRCUMFLEX;06SMALL LETTER G WITH CIRCUMFLEX;06CAPITAL LETTER G WITH BREVE
06SMALL LETTER G WITH BREVE;06CAPITAL LETTER G WITH DOT ABOVE;06SMALL LETTER G WITH DOT ABOVE
06CAPITAL LETTER G WITH CEDILLA;06SMALL LETTER G WITH CEDILLA;06CAPITAL LETTER H WITH CIRCUMFLEX
06SMALL LETTER H WITH CIRCUMFLEX;06CAPITAL LETTER H WITH STROKE;06SMALL LETTER H WITH STROKE
06CAPITAL LETTER I WITH TILDE;06SMALL LETTER I WITH TILDE;06CAPITAL LETTER I WITH MACRON
06SMALL LETTER I WITH MACRON;06CAPITAL LETTER I WITH BREVE;06SMALL LETTER I WITH BREVE
06CAPITAL LETTER I WITH OGONEK;06SMALL LETTER I WITH OGONEK;06CAPITAL LETTER I WITH DOT ABOVE
06SMALL LETTER DOTLESS I;06CAPITAL LIGATURE IJ;06SMALL LIGATURE IJ
06CAPITAL LETTER J WITH CIRCUMFLEX;06SMALL LETTER J WITH CIRCUMFLEX
06CAPITAL LETTER K WITH CEDILLA;06SMALL LETTER K WITH CEDILLA;20RA;06CAPITAL LETTER L WITH ACUTE
06SMALL LETTER L WITH ACUTE;06CAPITAL LETTER L WITH CEDILLA;06SMALL LETTER L WITH CEDILLA
06CAPITAL LETTER L WITH CARON;06SMALL LETTER L WITH CARON;06CAPITAL LETTER L WITH MIDDLE DOT
06SMALL LETTER L WITH MIDDLE DOT;06CAPITAL LETTER L WITH STROKE;06SMALL LETTER L WITH STROKE
06CAPITAL LETTER N WITH ACUTE;06SMALL LETTER N WITH ACUTE;06CAPITAL LETTER N WITH CEDILLA
06SMALL LETTER N WITH CEDILLA;06CAPITAL LETTER N WITH CARON;06SMALL LETTER N WITH CARON
21PRECEDED BY APOSTROPHE;06CAPITAL LETTER ENG;06SMALL LETTER ENG;06CAPITAL LETTER O WITH MACRON
06SMALL LETTER O WITH MACRON;06CAPITAL LETTER O WITH BREVE;06SMALL LETTER O WITH BREVE
06CAPITAL LETTER O WITH DOUBLE ACUTE;06SMALL LETTER O WITH DOUBLE ACUTE;06CAPITAL LIGATURE OE
06SMALL LIGATURE OE;06CAPITAL LETTER R WITH ACUTE;06SMALL LETTER R WITH ACUTE
06CAPITAL LETTER R WITH CEDILLA;06SMALL LETTER R WITH CEDILLA;06CAPITAL LETTER R WITH CARON
06SMALL LETTER R WITH CARON;06CAPITAL LETTER S WITH ACUTE;06SMALL LETTER S WITH ACUTE
06CAPITAL LETTER S WITH CIRCUMFLEX;06SMALL LETTER S WITH CIRCUMFLEX
06CAPITAL LETTER S WITH CEDILLA;06SMALL LETTER S WITH CEDILLA;06CAPITAL LETTER S WITH CARON
06SMALL LETTER S WITH CARON;06CAPITAL LETTER T WITH CEDILLA;06SMALL LETTER T WITH CEDILLA
06CAPITAL LETTER T WITH CARON;06SMALL LETTER T WITH CARON;06CAPITAL LETTER T WITH STROKE
06SMALL LETTER T WITH STROKE;06CAPITAL LETTER U WITH TILDE;06SMALL LETTER U WITH TILDE
06CAPITAL LETTER U WITH MACRON;06SMALL LETTER U WITH MACRON;06CAPITAL LETTER U WITH BREVE
06SMALL LETTER U WITH BREVE;06CAPITAL LETTER U WITH RING ABOVE;06SMALL LETTER U WITH RING ABOVE
06CAPITAL LETTER U WITH DOUBLE ACUTE;06SMALL LETTER U WITH DOUBLE ACUTE
06CAPITAL LETTER U WITH OGONEK;06SMALL LETTER U WITH OGONEK;06CAPITAL LETTER W WITH CIRCUMFLEX
06SMALL LETTER W WITH CIRCUMFLEX;06CAPITAL LETTER Y WITH CIRCUMFLEX
06SMALL LETTER Y WITH CIRCUMFLEX;06CAPITAL LETTER Y WITH DIAERESIS;21Z WITH ACUTE
06SMALL LETTER Z WITH ACUTE;06CAPITAL LETTER Z WITH DOT ABOVE;06SMALL LETTER Z WITH DOT ABOVE
06CAPITAL LETTER Z WITH CARON;06SMALL LETTER Z WITH CARON;19LONG S;19B WITH STROKE
06CAPITAL LETTER B WITH HOOK;28TOPBAR;06SMALL LETTER B WITH TOPBAR;06CAPITAL LETTER TONE SIX
06SMALL LETTER TONE SIX;06CAPITAL LETTER OPEN O;21C WITH HOOK;06SMALL LETTER C WITH HOOK
06CAPITAL LETTER AFRICAN D;21D WITH HOOK;28TOPBAR;06SMALL LETTER D WITH TOPBAR;19TURNED DELTA
06CAPITAL LETTER REVERSED E;21SCHWA;21OPEN E;21F WITH HOOK;06SMALL LETTER F WITH HOOK
06CAPITAL LETTER G WITH HOOK;22AMMA;06SMALL LETTER HV;06CAPITAL LETTER IOTA;22 WITH STROKE
21K WITH HOOK;06SMALL LETTER K WITH HOOK;19L WITH BAR;20AMBDA WITH STROKE
06CAPITAL LETTER TURNED M;21N WITH LEFT HOOK;06SMALL LETTER N WITH LONG RIGHT LEG
06CAPITAL LETTER O WITH MIDDLE TILDE;28HORN;06SMALL LETTER O WITH HORN;06CAPITAL LETTER OI
06SMALL LETTER OI;06CAPITAL LETTER P WITH HOOK;06SMALL LETTER P WITH HOOK;06LETTER YR
06CAPITAL LETTER TONE TWO;06SMALL LETTER TONE TWO;06CAPITAL LETTER ESH;06LETTER REVERSED ESH LOOP
06SMALL LETTER T WITH PALATAL HOOK;06CAPITAL LETTER T WITH HOOK;06SMALL LETTER T WITH HOOK
06CAPITAL LETTER T WITH RETROFLEX HOOK;21U WITH HORN;06SMALL LETTER U WITH HORN
06CAPITAL LETTER UPSILON;21V WITH HOOK;21Y WITH HOOK;06SMALL LETTER Y WITH HOOK
06CAPITAL LETTER Z WITH STROKE;06SMALL LETTER Z WITH STROKE;06CAPITAL LETTER EZH;24 REVERSED
06SMALL LETTER EZH REVERSED;23WITH TAIL;06LETTER TWO WITH STROKE;06CAPITAL LETTER TONE FIVE
06SMALL LETTER TONE FIVE;06LETTER INVERTED GLOTTAL STOP WITH STROKE;13WYNN;13DENTAL CLICK
13LATERAL CLICK;13ALVEOLAR CLICK;13RETROFLEX CLICK;06CAPITAL LETTER DZ WITH CARON
22 WITH SMALL LETTER Z WITH CARON;06SMALL LETTER DZ WITH CARON;06CAPITAL LETTER LJ
22 WITH SMALL LETTER J;06SMALL LETTER LJ;06CAPITAL LETTER NJ;22 WITH SMALL LETTER J
06SMALL LETTER NJ;06CAPITAL LETTER A WITH CARON;06SMALL LETTER A WITH CARON
06CAPITAL LETTER I WITH CARON;06SMALL LETTER I WITH CARON;06CAPITAL LETTER O WITH CARON
06SMALL LETTER O WITH CARON;06CAPITAL LETTER U WITH CARON;06SMALL LETTER U WITH CARON
06CAPITAL LETTER U WITH DIAERESIS AND MACRON;06SMALL LETTER U WITH DIAERESIS AND MACRON
06CAPITAL LETTER U WITH DIAERESIS AND ACUTE;06SMALL LETTER U WITH DIAERESIS AND ACUTE
06CAPITAL LETTER U WITH DIAERESIS AND CARON;06SMALL LETTER U WITH DIAERESIS AND CARON
06CAPITAL LETTER U WITH DIAERESIS AND GRAVE;06SMALL LETTER U WITH DIAERESIS AND GRAVE;19TURNED E
06CAPITAL LETTER A WITH DIAERESIS AND MACRON;06SMALL LETTER A WITH DIAERESIS AND MACRON
06CAPITAL LETTER A WITH DOT ABOVE AND MACRON;06SMALL LETTER A WITH DOT ABOVE AND MACRON
06CAPITAL LETTER AE WITH MACRON;06SMALL LETTER AE WITH MACRON;06CAPITAL LETTER G WITH STROKE
06SMALL LETTER G WITH STROKE;06CAPITAL LETTER G WITH CARON;06SMALL LETTER G WITH CARON
06CAPITAL LETTER K WITH CARON;06SMALL LETTER K WITH CARON;06CAPITAL LETTER O WITH OGONEK
06SMALL LETTER O WITH OGONEK;06CAPITAL LETTER O WITH OGONEK AND MACRON
06SMALL LETTER O WITH OGONEK AND MACRON;06CAPITAL LETTER EZH WITH CARON
06SMALL LETTER EZH WITH CARON;19J WITH CARON;06CAPITAL LETTER DZ;22 WITH SMALL LETTER Z
06SMALL LETTER DZ;06CAPITAL LETTER G WITH ACUTE;06SMALL LETTER G WITH ACUTE;06CAPITAL LETTER HWAIR
21WYNN;21N WITH GRAVE;06SMALL LETTER N WITH GRAVE;06CAPITAL LETTER A WITH RING ABOVE AND ACUTE
06SMALL LETTER A WITH RING ABOVE AND ACUTE;06CAPITAL LETTER AE WITH ACUTE
06SMALL LETTER AE WITH ACUTE;06CAPITAL LETTER O WITH STROKE AND ACUTE
06SMALL LETTER O WITH STROKE AND ACUTE;06CAPITAL LETTER A WITH DOUBLE GRAVE
06SMALL LETTER A WITH DOUBLE GRAVE;06CAPITAL LETTER A WITH INVERTED BREVE
06SMALL LETTER A WITH INVERTED BREVE;06CAPITAL LETTER E WITH DOUBLE GRAVE
06SMALL LETTER E WITH DOUBLE GRAVE;06CAPITAL LETTER E WITH INVERTED BREVE
06SMALL LETTER E WITH INVERTED BREVE;06CAPITAL LETTER I WITH DOUBLE GRAVE
06SMALL LETTER I WITH DOUBLE GRAVE;06CAPITAL LETTER I WITH INVERTED BREVE
06SMALL LETTER I WITH INVERTED BREVE;06CAPITAL LETTER O WITH DOUBLE GRAVE
06SMALL LETTER O WITH DOUBLE GRAVE;06CAPITAL LETTER O WITH INVERTED BREVE
06SMALL LETTER O WITH INVERTED BREVE;06CAPITAL LETTER R WITH DOUBLE GRAVE
06SMALL LETTER R WITH DOUBLE GRAVE;06CAPITAL LETTER R WITH INVERTED BREVE
06SMALL LETTER R WITH INVERTED BREVE;06CAPITAL LETTER U WITH DOUBLE GRAVE
06SMALL LETTER U WITH DOUBLE GRAVE;06CAPITAL LETTER U WITH INVERTED BREVE
06SMALL LETTER U WITH INVERTED BREVE;06CAPITAL LETTER S WITH COMMA BELOW
06SMALL LETTER S WITH COMMA BELOW;06CAPITAL LETTER T WITH COMMA BELOW
06SMALL LETTER T WITH COMMA BELOW;06CAPITAL LETTER YOGH;06SMALL LETTER YOGH
06CAPITAL LETTER H WITH CARON;06SMALL LETTER H WITH CARON;06CAPITAL LETTER N WITH LONG RIGHT LEG
06SMALL LETTER D WITH CURL;06CAPITAL LETTER OU;06SMALL LETTER OU;06CAPITAL LETTER Z WITH HOOK
06SMALL LETTER Z WITH HOOK;06CAPITAL LETTER A WITH DOT ABOVE;06SMALL LETTER A WITH DOT ABOVE
06CAPITAL LETTER E WITH CEDILLA;06SMALL LETTER E WITH CEDILLA
06CAPITAL LETTER O WITH DIAERESIS AND MACRON;06SMALL LETTER O WITH DIAERESIS AND MACRON
06CAPITAL LETTER O WITH TILDE AND MACRON;06SMALL LETTER O WITH TILDE AND MACRON
06CAPITAL LETTER O WITH DOT ABOVE;06SMALL LETTER O WITH DOT ABOVE
06CAPITAL LETTER O WITH DOT ABOVE AND MACRON;06SMALL LETTER O WITH DOT ABOVE AND MACRON
06CAPITAL LETTER Y WITH MACRON;06SMALL LETTER Y WITH MACRON;19L WITH CURL;19N WITH CURL
19T WITH CURL;19DOTLESS J;20B DIGRAPH;19QP DIGRAPH;06CAPITAL LETTER A WITH STROKE;21C WITH STROKE
06SMALL LETTER C WITH STROKE;06CAPITAL LETTER L WITH BAR;21T WITH DIAGONAL STROKE
06SMALL LETTER S WITH SWASH TAIL;19Z WITH SWASH TAIL;06CAPITAL LETTER GLOTTAL STOP
06SMALL LETTER GLOTTAL STOP;06CAPITAL LETTER B WITH STROKE;21U BAR;21TURNED V;21E WITH STROKE
06SMALL LETTER E WITH STROKE;06CAPITAL LETTER J WITH STROKE;06SMALL LETTER J WITH STROKE
06CAPITAL LETTER SMALL Q WITH HOOK TAIL;06SMALL LETTER Q WITH HOOK TAIL
06CAPITAL LETTER R WITH STROKE;06SMALL LETTER R WITH STROKE;06CAPITAL LETTER Y WITH STROKE
06SMALL LETTER Y WITH STROKE;19TURNED A;19ALPHA;19TURNED ALPHA;19B WITH HOOK;19OPEN O
19C WITH CURL;19D WITH TAIL;26HOOK;19REVERSED E;19SCHWA;24 WITH HOOK;19OPEN E;19REVERSED OPEN E
34 WITH HOOK;19CLOSED REVERSED OPEN E;19DOTLESS J WITH STROKE;19G WITH HOOK;19SCRIPT G
06LETTER SMALL CAPITAL G;06SMALL LETTER GAMMA;19RAMS HORN;19TURNED H;19H WITH HOOK;20ENG WITH HOOK
19I WITH STROKE;20OTA;06LETTER SMALL CAPITAL I;06SMALL LETTER L WITH MIDDLE TILDE;26BELT
26RETROFLEX HOOK;20EZH;19TURNED M;27 WITH LONG LEG;19M WITH HOOK;19N WITH LEFT HOOK
26RETROFLEX HOOK;06LETTER SMALL CAPITAL N;06SMALL LETTER BARRED O;06LETTER SMALL CAPITAL OE
06SMALL LETTER CLOSED OMEGA;19PHI;19TURNED R;27 WITH LONG LEG;33HOOK;19R WITH LONG LEG;26TAIL
26FISHHOOK;20EVERSED R WITH FISHHOOK;06LETTER SMALL CAPITAL R;27INVERTED R
06SMALL LETTER S WITH HOOK;19ESH;19DOTLESS J WITH STROKE AND HOOK;19SQUAT REVERSED ESH
19ESH WITH CURL;19TURNED T;20 WITH RETROFLEX HOOK;19U BAR;20PSILON;19V WITH HOOK;19TURNED V;26W
26Y;06LETTER SMALL CAPITAL Y;06SMALL LETTER Z WITH RETROFLEX HOOK;26CURL;19EZH;22 WITH CURL
06LETTER GLOTTAL STOP;13PHARYNGEAL VOICED FRICATIVE;13INVERTED GLOTTAL STOP;13STRETCHED C
13BILABIAL CLICK;13SMALL CAPITAL B;06SMALL LETTER CLOSED OPEN E;06LETTER SMALL CAPITAL G WITH HOOK
27H;06SMALL LETTER J WITH CROSSED-TAIL;19TURNED K;06LETTER SMALL CAPITAL L
06SMALL LETTER Q WITH HOOK;06LETTER GLOTTAL STOP WITH STROKE;13REVERSED GLOTTAL STOP WITH STROKE
06SMALL LETTER DZ DIGRAPH;20EZH DIGRAPH;20Z DIGRAPH WITH CURL;19TS DIGRAPH;20ESH DIGRAPH
20C DIGRAPH WITH CURL;19FENG DIGRAPH;19LS DIGRAPH;20Z DIGRAPH;06LETTER BILABIAL PERCUSSIVE
15DENTAL PERCUSSIVE;06SMALL LETTER TURNED H WITH FISHHOOK;41 AND TAIL;00MODIFIER LETTER SMALL H
23 WITH HOOK;22J;22R;22TURNED R;30 WITH HOOK;22CAPITAL INVERTED R;22W;22Y;16PRIME;16DOUBLE PRIME
16TURNED COMMA;16APOSTROPHE;16REVERSED COMMA;17IGHT HALF RING;16LEFT HALF RING;16GLOTTAL STOP
16REVERSED GLOTTAL STOP;16LEFT ARROWHEAD;16RIGHT ARROWHEAD;16UP ARROWHEAD;16DOWN ARROWHEAD
16CIRCUMFLEX ACCENT;00CARON;00MODIFIER LETTER VERTICAL LINE;16MACRON;16ACUTE ACCENT;16GRAVE ACCENT
16LOW VERTICAL LINE;20MACRON;20GRAVE ACCENT;20ACUTE ACCENT;16TRIANGULAR COLON
16HALF TRIANGULAR COLON;16CENTRED RIGHT HALF RING;24LEFT HALF RING;16UP TACK;16DOWN TACK
16PLUS SIGN;16MINUS SIGN;00BREVE;00DOT ABOVE;00RING ABOVE;00OGONEK;00SMALL TILDE
00DOUBLE ACUTE ACCENT;00MODIFIER LETTER RHOTIC HOOK;16CROSS ACCENT;16SMALL GAMMA;22L;22S;22X
22REVERSED GLOTTAL STOP;16EXTRA-HIGH TONE BAR;16HIGH TONE BAR;16MID TONE BAR;16LOW TONE BAR
16EXTRA-LOW TONE BAR;16YIN DEPARTING TONE MARK;17ANG DEPARTING TONE MARK;16VOICING;16UNASPIRATED
16DOUBLE APOSTROPHE;16LOW DOWN ARROWHEAD;20UP ARROWHEAD;20LEFT ARROWHEAD;20RIGHT ARROWHEAD;22NG
16MIDDLE GRAVE ACCENT;23DOUBLE GRAVE ACCENT;30ACUTE ACCENT;16LOW TILDE;16RAISED COLON
16BEGIN HIGH TONE;16END HIGH TONE;16BEGIN LOW TONE;16END LOW TONE;16SHELF;16OPEN SHELF
16LOW LEFT ARROW;00COMBINING GRAVE ACCENT;10ACUTE ACCENT;10CIRCUMFLEX ACCENT;10TILDE;10MACRON
10OVERLINE;10BREVE;10DOT ABOVE;11IAERESIS;10HOOK ABOVE;10RING ABOVE;10DOUBLE ACUTE ACCENT;10CARON
10VERTICAL LINE ABOVE;10DOUBLE VERTICAL LINE ABOVE;17GRAVE ACCENT;10CANDRABINDU;10INVERTED BREVE
10TURNED COMMA ABOVE;10COMMA ABOVE;10REVERSED COMMA ABOVE;10COMMA ABOVE RIGHT;10GRAVE ACCENT BELOW
10ACUTE ACCENT BELOW;10LEFT TACK BELOW;10RIGHT TACK BELOW;10LEFT ANGLE ABOVE;10HORN
10LEFT HALF RING BELOW;10UP TACK BELOW;10DOWN TACK BELOW;10PLUS SIGN BELOW;10MINUS SIGN BELOW
10PALATALIZED HOOK BELOW;10RETROFLEX HOOK BELOW;10DOT BELOW;11IAERESIS BELOW;10RING BELOW
10COMMA BELOW;11EDILLA;10OGONEK;10VERTICAL LINE BELOW;10BRIDGE BELOW;10INVERTED DOUBLE ARCH BELOW
10CARON BELOW;11IRCUMFLEX ACCENT BELOW;10BREVE BELOW;10INVERTED BREVE BELOW;10TILDE BELOW
10MACRON BELOW;10LOW LINE;10DOUBLE LOW LINE;10TILDE OVERLAY;10SHORT STROKE OVERLAY
10LONG STROKE OVERLAY;10SHORT SOLIDUS OVERLAY;10LONG SOLIDUS OVERLAY;10RIGHT HALF RING BELOW
10INVERTED BRIDGE BELOW;10SQUARE BELOW;11EAGULL BELOW;10X ABOVE;10VERTICAL TILDE;10DOUBLE OVERLINE
10GRAVE TONE MARK;10ACUTE TONE MARK;10GREEK PERISPOMENI;16KORONIS;16DIALYTIKA TONOS
16YPOGEGRAMMENI;10BRIDGE ABOVE;10EQUALS SIGN BELOW;10DOUBLE VERTICAL LINE BELOW;10LEFT ANGLE BELOW
10NOT TILDE ABOVE;10HOMOTHETIC ABOVE;10ALMOST EQUAL TO ABOVE;10LEFT RIGHT ARROW BELOW
10UPWARDS ARROW BELOW;10GRAPHEME JOINER;10RIGHT ARROWHEAD ABOVE;10LEFT HALF RING ABOVE;10FERMATA
10X BELOW;10LEFT ARROWHEAD BELOW;10RIGHT ARROWHEAD BELOW;26AND UP ARROWHEAD BELOW
16HALF RING ABOVE;10DOT ABOVE RIGHT;10ASTERISK BELOW;10DOUBLE RING BELOW;10ZIGZAG ABOVE
10DOUBLE BREVE BELOW;22;17MACRON;23 BELOW;17TILDE;17INVERTED BREVE;17RIGHTWARDS ARROW BELOW
10LATIN SMALL LETTER A;29E;29I;29O;29U;29C;29D;29H;29M;29R;29T;29V;29X;00GREEK CAPITAL LETTER HETA
06SMALL LETTER HETA;06CAPITAL LETTER ARCHAIC SAMPI;06SMALL LETTER ARCHAIC SAMPI;06NUMERAL SIGN
06LOWER NUMERAL SIGN;06CAPITAL LETTER PAMPHYLIAN DIGAMMA;06SMALL LETTER PAMPHYLIAN DIGAMMA;+37A
06YPOGEGRAMMENI;06SMALL REVERSED LUNATE SIGMA SYMBOL;12DOTTED LUNATE SIGMA SYMBOL
12REVERSED DOTTED LUNATE SIGMA SYMBOL;06QUESTION MARK;06CAPITAL LETTER YOT;+384;06TONOS
06DIALYTIKA TONOS;06CAPITAL LETTER ALPHA WITH TONOS;06ANO TELEIA
06CAPITAL LETTER EPSILON WITH TONOS;22TA WITH TONOS;21IOTA WITH TONOS;+38C;21OMICRON WITH TONOS
+38E;21UPSILON WITH TONOS;21OMEGA WITH TONOS;06SMALL LETTER IOTA WITH DIALYTIKA AND TONOS
06CAPITAL LETTER ALPHA;21BETA;21GAMMA;21DELTA;21EPSILON;21ZETA;21ETA;21THETA;21IOTA;21KAPPA
21LAMDA;21MU;21NU;21XI;21OMICRON;21PI;21RHO;+3A3;21SIGMA;21TAU;21UPSILON;21PHI;21CHI;21PSI;21OMEGA
21IOTA WITH DIALYTIKA;21UPSILON WITH DIALYTIKA;06SMALL LETTER ALPHA WITH TONOS
19EPSILON WITH TONOS;20TA WITH TONOS;19IOTA WITH TONOS;19UPSILON WITH DIALYTIKA AND TONOS;19ALPHA
19BETA;19GAMMA;19DELTA;19EPSILON;19ZETA;19ETA;19THETA;19IOTA;19KAPPA;19LAMDA;19MU;19NU;19XI
19OMICRON;19PI;19RHO;19FINAL SIGMA;19SIGMA;19TAU;19UPSILON;19PHI;19CHI;19PSI;19OMEGA
19IOTA WITH DIALYTIKA;19UPSILON WITH DIALYTIKA;19OMICRON WITH TONOS;19UPSILON WITH TONOS
19OMEGA WITH TONOS;06CAPITAL KAI SYMBOL;06BETA SYMBOL;06THETA SYMBOL;06UPSILON WITH HOOK SYMBOL
19ACUTE AND HOOK SYMBOL;19DIAERESIS AND HOOK SYMBOL;06PHI SYMBOL;07I SYMBOL;06KAI SYMBOL
06LETTER ARCHAIC KOPPA;06SMALL LETTER ARCHAIC KOPPA;06LETTER STIGMA;06SMALL LETTER STIGMA
06LETTER DIGAMMA;06SMALL LETTER DIGAMMA;06LETTER KOPPA;06SMALL LETTER KOPPA;06LETTER SAMPI
06SMALL LETTER SAMPI;00COPTIC CAPITAL LETTER SHEI;07SMALL LETTER SHEI;07CAPITAL LETTER FEI
07SMALL LETTER FEI;07CAPITAL LETTER KHEI;07SMALL LETTER KHEI;07CAPITAL LETTER HORI
07SMALL LETTER HORI;07CAPITAL LETTER GANGIA;07SMALL LETTER GANGIA;07CAPITAL LETTER SHIMA
07SMALL LETTER SHIMA;07CAPITAL LETTER DEI;07SMALL LETTER DEI;00GREEK KAPPA SYMBOL;06RHO SYMBOL
06LUNATE SIGMA SYMBOL;07ETTER YOT;06CAPITAL THETA SYMBOL;06LUNATE EPSILON SYMBOL
06REVERSED LUNATE EPSILON SYMBOL;06CAPITAL LETTER SHO;06SMALL LETTER SHO
06CAPITAL LUNATE SIGMA SYMBOL;15ETTER SAN;06SMALL LETTER SAN;06RHO WITH STROKE SYMBOL
06CAPITAL REVERSED LUNATE SIGMA SYMBOL;14DOTTED LUNATE SIGMA SYMBOL
14REVERSED DOTTED LUNATE SIGMA SYMBOL;00CYRILLIC CAPITAL LETTER IE WITH GRAVE;25O;24DJE;24GJE
24UKRAINIAN IE;24DZE;24BYELORUSSIAN-UKRAINIAN I;24YI;24JE;24LJE;24NJE;24TSHE;24KJE;24I WITH GRAVE
24SHORT U;24DZHE;24A;24BE;24VE;24GHE;24DE;24IE;24ZHE;25E;24I;24SHORT I;24KA;24EL;25M;25N;24O;24PE
24ER;25S;24TE;24U;24EF;24HA;24TSE;24CHE;24SHA;26CHA;24HARD SIGN;24YERU;24SOFT SIGN;24E;24YU;25A
09SMALL LETTER A;22BE;22VE;22GHE;22DE;22IE;22ZHE;23E;22I;22SHORT I;22KA;22EL;23M;23N;22O;22PE;22ER
23S;22TE;22U;22EF;22HA;22TSE;22CHE;22SHA;24CHA;22HARD SIGN;22YERU;22SOFT SIGN;22E;22YU;23A
22IE WITH GRAVE;23O;22DJE;22GJE;22UKRAINIAN IE;22DZE;22BYELORUSSIAN-UKRAINIAN I;22YI;22JE;22LJE
22NJE;22TSHE;22KJE;22I WITH GRAVE;22SHORT U;22DZHE;09CAPITAL LETTER OMEGA;09SMALL LETTER OMEGA
09CAPITAL LETTER YAT;09SMALL LETTER YAT;09CAPITAL LETTER IOTIFIED E;09SMALL LETTER IOTIFIED E
09CAPITAL LETTER LITTLE YUS;09SMALL LETTER LITTLE YUS;09CAPITAL LETTER IOTIFIED LITTLE YUS
09SMALL LETTER IOTIFIED LITTLE YUS;09CAPITAL LETTER BIG YUS;09SMALL LETTER BIG YUS
09CAPITAL LETTER IOTIFIED BIG YUS;09SMALL LETTER IOTIFIED BIG YUS;09CAPITAL LETTER KSI
09SMALL LETTER KSI;09CAPITAL LETTER PSI;09SMALL LETTER PSI;09CAPITAL LETTER FITA
09SMALL LETTER FITA;09CAPITAL LETTER IZHITSA;09SMALL LETTER IZHITSA
09CAPITAL LETTER IZHITSA WITH DOUBLE GRAVE ACCENT;09SMALL LETTER IZHITSA WITH DOUBLE GRAVE ACCENT
09CAPITAL LETTER UK;09SMALL LETTER UK;09CAPITAL LETTER ROUND OMEGA;09SMALL LETTER ROUND OMEGA
09CAPITAL LETTER OMEGA WITH TITLO;09SMALL LETTER OMEGA WITH TITLO;09CAPITAL LETTER OT
09SMALL LETTER OT;09CAPITAL LETTER KOPPA;09SMALL LETTER KOPPA;09THOUSANDS SIGN
01OMBINING CYRILLIC TITLO;19PALATALIZATION;19DASIA PNEUMATA;19PSILI PNEUMATA;20OKRYTIE
19HUNDRED THOUSANDS SIGN;19MILLIONS SIGN;01YRILLIC CAPITAL LETTER SHORT I WITH TAIL
09SMALL LETTER SHORT I WITH TAIL;09CAPITAL LETTER SEMISOFT SIGN;09SMALL LETTER SEMISOFT SIGN
09CAPITAL LETTER ER WITH TICK;09SMALL LETTER ER WITH TICK;09CAPITAL LETTER GHE WITH UPTURN
09SMALL LETTER GHE WITH UPTURN;09CAPITAL LETTER GHE WITH STROKE;09SMALL LETTER GHE WITH STROKE
09CAPITAL LETTER GHE WITH MIDDLE HOOK;09SMALL LETTER GHE WITH MIDDLE HOOK
09CAPITAL LETTER ZHE WITH DESCENDER;09SMALL LETTER ZHE WITH DESCENDER
09CAPITAL LETTER ZE WITH DESCENDER;09SMALL LETTER ZE WITH DESCENDER
09CAPITAL LETTER KA WITH DESCENDER;09SMALL LETTER KA WITH DESCENDER
09CAPITAL LETTER KA WITH VERTICAL STROKE;09SMALL LETTER KA WITH VERTICAL STROKE
09CAPITAL LETTER KA WITH STROKE;09SMALL LETTER KA WITH STROKE;09CAPITAL LETTER BASHKIR KA
09SMALL LETTER BASHKIR KA;09CAPITAL LETTER EN WITH DESCENDER;09SMALL LETTER EN WITH DESCENDER
09CAPITAL LIGATURE EN GHE;09SMALL LIGATURE EN GHE;09CAPITAL LETTER PE WITH MIDDLE HOOK
09SMALL LETTER PE WITH MIDDLE HOOK;09CAPITAL LETTER ABKHASIAN HA;09SMALL LETTER ABKHASIAN HA
09CAPITAL LETTER ES WITH DESCENDER;09SMALL LETTER ES WITH DESCENDER
09CAPITAL LETTER TE WITH DESCENDER;09SMALL LETTER TE WITH DESCENDER;09CAPITAL LETTER STRAIGHT U
09SMALL LETTER STRAIGHT U;09CAPITAL LETTER STRAIGHT U WITH STROKE
09SMALL LETTER STRAIGHT U WITH STROKE;09CAPITAL LETTER HA WITH DESCENDER
09SMALL LETTER HA WITH DESCENDER;09CAPITAL LIGATURE TE TSE;09SMALL LIGATURE TE TSE
09CAPITAL LETTER CHE WITH DESCENDER;09SMALL LETTER CHE WITH DESCENDER
09CAPITAL LETTER CHE WITH VERTICAL STROKE;09SMALL LETTER CHE WITH VERTICAL STROKE
09CAPITAL LETTER SHHA;09SMALL LETTER SHHA;09CAPITAL LETTER ABKHASIAN CHE
09SMALL LETTER ABKHASIAN CHE;09CAPITAL LETTER ABKHASIAN CHE WITH DESCENDER
09SMALL LETTER ABKHASIAN CHE WITH DESCENDER;09LETTER PALOCHKA;09CAPITAL LETTER ZHE WITH BREVE
09SMALL LETTER ZHE WITH BREVE;09CAPITAL LETTER KA WITH HOOK;09SMALL LETTER KA WITH HOOK
09CAPITAL LETTER EL WITH TAIL;09SMALL LETTER EL WITH TAIL;09CAPITAL LETTER EN WITH HOOK
09SMALL LETTER EN WITH HOOK;09CAPITAL LETTER EN WITH TAIL;09SMALL LETTER EN WITH TAIL
09CAPITAL LETTER KHAKASSIAN CHE;09SMALL LETTER KHAKASSIAN CHE;09CAPITAL LETTER EM WITH TAIL
09SMALL LETTER EM WITH TAIL;22PALOCHKA;09CAPITAL LETTER A WITH BREVE;09SMALL LETTER A WITH BREVE
09CAPITAL LETTER A WITH DIAERESIS;09SMALL LETTER A WITH DIAERESIS;09CAPITAL LIGATURE A IE
09SMALL LIGATURE A IE;09CAPITAL LETTER IE WITH BREVE;09SMALL LETTER IE WITH BREVE
09CAPITAL LETTER SCHWA;09SMALL LETTER SCHWA;09CAPITAL LETTER SCHWA WITH DIAERESIS
09SMALL LETTER SCHWA WITH DIAERESIS;09CAPITAL LETTER ZHE WITH DIAERESIS
09SMALL LETTER ZHE WITH DIAERESIS;09CAPITAL LETTER ZE WITH DIAERESIS
09SMALL LETTER ZE WITH DIAERESIS;09CAPITAL LETTER ABKHASIAN DZE;09SMALL LETTER ABKHASIAN DZE
09CAPITAL LETTER I WITH MACRON;09SMALL LETTER I WITH MACRON;09CAPITAL LETTER I WITH DIAERESIS
09SMALL LETTER I WITH DIAERESIS;09CAPITAL LETTER O WITH DIAERESIS;09SMALL LETTER O WITH DIAERESIS
09CAPITAL LETTER BARRED O;09SMALL LETTER BARRED O;09CAPITAL LETTER BARRED O WITH DIAERESIS
09SMALL LETTER BARRED O WITH DIAERESIS;09CAPITAL LETTER E WITH DIAERESIS
09SMALL LETTER E WITH DIAERESIS;09CAPITAL LETTER U WITH MACRON;09SMALL LETTER U WITH MACRON
09CAPITAL LETTER U WITH DIAERESIS;09SMALL LETTER U WITH DIAERESIS
09CAPITAL LETTER U WITH DOUBLE ACUTE;09SMALL LETTER U WITH DOUBLE ACUTE
09CAPITAL LETTER CHE WITH DIAERESIS;09SMALL LETTER CHE WITH DIAERESIS
09CAPITAL LETTER GHE WITH DESCENDER;09SMALL LETTER GHE WITH DESCENDER
09CAPITAL LETTER YERU WITH DIAERESIS;09SMALL LETTER YERU WITH DIAERESIS
09CAPITAL LETTER GHE WITH STROKE AND HOOK;09SMALL LETTER GHE WITH STROKE AND HOOK
09CAPITAL LETTER HA WITH HOOK;09SMALL LETTER HA WITH HOOK;09CAPITAL LETTER HA WITH STROKE
09SMALL LETTER HA WITH STROKE;09CAPITAL LETTER KOMI DE;09SMALL LETTER KOMI DE
09CAPITAL LETTER KOMI DJE;09SMALL LETTER KOMI DJE;09CAPITAL LETTER KOMI ZJE
09SMALL LETTER KOMI ZJE;09CAPITAL LETTER KOMI DZJE;09SMALL LETTER KOMI DZJE
09CAPITAL LETTER KOMI LJE;09SMALL LETTER KOMI LJE;09CAPITAL LETTER KOMI NJE
09SMALL LETTER KOMI NJE;09CAPITAL LETTER KOMI SJE;09SMALL LETTER KOMI SJE
09CAPITAL LETTER KOMI TJE;09SMALL LETTER KOMI TJE;09CAPITAL LETTER REVERSED ZE
09SMALL LETTER REVERSED ZE;09CAPITAL LETTER EL WITH HOOK;09SMALL LETTER EL WITH HOOK
09CAPITAL LETTER LHA;09SMALL LETTER LHA;09CAPITAL LETTER RHA;09SMALL LETTER RHA
09CAPITAL LETTER YAE;09SMALL LETTER YAE;09CAPITAL LETTER QA;09SMALL LETTER QA;09CAPITAL LETTER WE
09SMALL LETTER WE;09CAPITAL LETTER ALEUT KA;09SMALL LETTER ALEUT KA
09CAPITAL LETTER EL WITH MIDDLE HOOK;09SMALL LETTER EL WITH MIDDLE HOOK
09CAPITAL LETTER EN WITH MIDDLE HOOK;09SMALL LETTER EN WITH MIDDLE HOOK
09CAPITAL LETTER PE WITH DESCENDER;09SMALL LETTER PE WITH DESCENDER
09CAPITAL LETTER SHHA WITH DESCENDER;09SMALL LETTER SHHA WITH DESCENDER
09CAPITAL LETTER EN WITH LEFT HOOK;09SMALL LETTER EN WITH LEFT HOOK;09CAPITAL LETTER DZZHE
09SMALL LETTER DZZHE;09CAPITAL LETTER DCHE;09SMALL LETTER DCHE;09CAPITAL LETTER EL WITH DESCENDER
09SMALL LETTER EL WITH DESCENDER;+531;00ARMENIAN CAPITAL LETTER AYB;24BEN;24GIM;24DA;24ECH;24ZA
24EH;25T;24TO;24ZHE;24INI;24LIWN;24XEH;24CA;24KEN;24HO;24JA;24GHAD;24CHEH;24MEN;24YI;24NOW;24SHA
24VO;24CHA;24PEH;24JHEH;24RA;24SEH;24VEW;24TIWN;24REH;24CO;24YIWN;24PIWR;24KEH;24OH;24FEH;+559
09MODIFIER LETTER LEFT HALF RING;09APOSTROPHE;09EMPHASIS MARK;10XCLAMATION MARK;09COMMA
09QUESTION MARK;09ABBREVIATION MARK;09SMALL LETTER TURNED AYB;22AYB;22BEN;22GIM;22DA;22ECH;22ZA
22EH;23T;22TO;22ZHE;22INI;22LIWN;22XEH;22CA;22KEN;22HO;22JA;22GHAD;22CHEH;22MEN;22YI;22NOW;22SHA
22VO;22CHA;22PEH;22JHEH;22RA;22SEH;22VEW;22TIWN;22REH;22CO;22YIWN;22PIWR;22KEH;22OH;22FEH
16IGATURE ECH YIWN;16ETTER YI WITH STROKE;09FULL STOP;09HYPHEN;+58D
00RIGHT-FACING ARMENIAN ETERNITY SIGN;00LEFT-FACING ARMENIAN ETERNITY SIGN;00ARMENIAN DRAM SIGN
+591;00HEBREW ACCENT ETNAHTA;14SEGOL;15HALSHELET;14ZAQEF QATAN;20GADOL;14TIPEHA;14REVIA;14ZARQA
14PASHTA;14YETIV;14TEVIR;14GERESH;20 MUQDAM;17SHAYIM;14QARNEY PARA;14TELISHA GEDOLA;14PAZER
14ATNAH HAFUKH;14MUNAH;15AHAPAKH;15ERKHA;20 KEFULA;14DARGA;14QADMA;14TELISHA QETANA
14YERAH BEN YOMO;14OLE;14ILUY;14DEHI;14ZINOR;07MARK MASORA CIRCLE;07POINT SHEVA;13HATAF SEGOL
19PATAH;19QAMATS;14IRIQ;13TSERE;13SEGOL;13PATAH;13QAMATS;13HOLAM;18 HASER FOR VAV;13QUBUTS
13DAGESH OR MAPIQ;13METEG;08UNCTUATION MAQAF;08OINT RAFE;08UNCTUATION PASEQ;08OINT SHIN DOT
14IN DOT;08UNCTUATION SOF PASUQ;07MARK UPPER DOT;12LOWER DOT;07PUNCTUATION NUN HAFUKHA
08OINT QAMATS QATAN;+5D0;07LETTER ALEF;14BET;14GIMEL;14DALET;14HE;14VAV;14ZAYIN;14HET;14TET;14YOD
14FINAL KAF;14KAF;14LAMED;14FINAL MEM;14MEM;14FINAL NUN;14NUN;14SAMEKH;14AYIN;14FINAL PE;14PE
14FINAL TSADI;14TSADI;14QOF;14RESH;14SHIN;14TAV;+5EF;07YOD TRIANGLE;07LIGATURE YIDDISH DOUBLE VAV
24VAV YOD;24DOUBLE YOD;07PUNCTUATION GERESH;22SHAYIM;+600;00ARABIC NUMBER SIGN;07SIGN SANAH
07FOOTNOTE MARKER;07SIGN SAFHA;14MVAT;07NUMBER MARK ABOVE;06-INDIC CUBE ROOT;13FOURTH ROOT;06 RAY
06-INDIC PER MILLE SIGN;17TEN THOUSAND SIGN;01FGHANI SIGN;01RABIC COMMA;07DATE SEPARATOR
07POETIC VERSE SIGN;07SIGN MISRA;12SALLALLAHOU ALAYHE WASSALLAM;12ALAYHE ASSALLAM
12RAHMATULLAH ALAYHE;14DI ALLAHOU ANHU;12TAKHALLUS;08MALL HIGH TAH
18LIGATURE ALEF WITH LAM WITH YEH;18ZAIN;13FATHA;13DAMMA;13KASRA;08EMICOLON;07LETTER MARK
07END OF TEXT MARK;07TRIPLE DOT PUNCTUATION MARK;07QUESTION MARK;07LETTER KASHMIRI YEH;14HAMZA
14ALEF WITH MADDA ABOVE;24HAMZA ABOVE;14WAW WITH HAMZA ABOVE;14ALEF WITH HAMZA BELOW
14YEH WITH HAMZA ABOVE;14ALEF;14BEH;14TEH MARBUTA;17;15HEH;14JEEM;14HAH;14KHAH;14DAL;14THAL;14REH
14ZAIN;14SEEN;15HEEN;15AD;14DAD;14TAH;14ZAH;14AIN;14GHAIN;14KEHEH WITH TWO DOTS ABOVE
26HREE DOTS BELOW;14FARSI YEH WITH INVERTED V;29TWO DOTS ABOVE;30HREE DOTS ABOVE;07TATWEEL
07LETTER FEH;14QAF;14KAF;14LAM;14MEEM;14NOON;14HEH;14WAW;14ALEF MAKSURA;14YEH;07FATHATAN
07DAMMATAN;07KASRATAN;07FATHA;07DAMMA;07KASRA;07SHADDA;08UKUN;07MADDAH ABOVE;07HAMZA ABOVE;13BELOW
07SUBSCRIPT ALEF;07INVERTED DAMMA;07MARK NOON GHUNNA;07ZWARAKAY;07VOWEL SIGN SMALL V ABOVE
18INVERTED SMALL V ABOVE;18DOT BELOW;07REVERSED DAMMA;07FATHA WITH TWO DOTS;07WAVY HAMZA BELOW
06-INDIC DIGIT ZERO;19ONE;19TWO;20HREE;19FOUR;20IVE;19SIX;20EVEN;19EIGHT;19NINE;06 PERCENT SIGN
07DECIMAL SEPARATOR;07THOUSANDS SEPARATOR;07FIVE POINTED STAR;07LETTER DOTLESS BEH;22QAF
14SUPERSCRIPT ALEF;14ALEF WASLA;20ITH WAVY HAMZA ABOVE;35BELOW;14HIGH HAMZA;24 ALEF;25WAW
14U WITH HAMZA ABOVE;14HIGH HAMZA YEH;14TTEH;18EH;14BEEH;14TEH WITH RING
23THREE DOTS ABOVE DOWNWARDS;14PEH;14TEHEH;14BEHEH;14HAH WITH HAMZA ABOVE
23TWO DOTS VERTICAL ABOVE;14NYEH;14DYEH;14HAH WITH THREE DOTS ABOVE;14TCHEH;19EH;14DDAL
15AL WITH RING;23DOT BELOW;32 AND SMALL TAH;16HAL;15DAHAL;15UL
15AL WITH THREE DOTS ABOVE DOWNWARDS;23FOUR DOTS ABOVE;14RREH;15EH WITH SMALL V;23RING;23DOT BELOW
23SMALL V BELOW;23DOT BELOW AND DOT ABOVE;23TWO DOTS ABOVE;14JEH;14REH WITH FOUR DOTS ABOVE
14SEEN WITH DOT BELOW AND DOT ABOVE;24THREE DOTS BELOW;40 AND THREE DOTS ABOVE
15AD WITH TWO DOTS BELOW;24HREE DOTS ABOVE;14TAH WITH THREE DOTS ABOVE;14AIN WITH THREE DOTS ABOVE
14DOTLESS FEH;14FEH WITH DOT MOVED BELOW;27BELOW;14VEH;14FEH WITH THREE DOTS BELOW;14PEHEH
14QAF WITH DOT ABOVE;23THREE DOTS ABOVE;14KEHEH;14SWASH KAF;14KAF WITH RING;23DOT ABOVE;14NG
14KAF WITH THREE DOTS BELOW;14GAF;17 WITH RING;14NGOEH;14GAF WITH TWO DOTS BELOW;15UEH
15AF WITH THREE DOTS ABOVE;14LAM WITH SMALL V;23DOT ABOVE;23THREE DOTS ABOVE;34BELOW
14NOON WITH DOT BELOW;19GHUNNA;14RNOON;14NOON WITH RING;24THREE DOTS ABOVE;14HEH DOACHASHMEE
14TCHEH WITH DOT ABOVE;14HEH WITH YEH ABOVE;18GOAL;22 WITH HAMZA ABOVE;14TEH MARBUTA GOAL
14WAW WITH RING;14KIRGHIZ OE;14OE;14U;14YU;14KIRGHIZ YU;14WAW WITH TWO DOTS ABOVE;14VE;14FARSI YEH
14YEH WITH TAIL;23SMALL V;14WAW WITH DOT ABOVE;14E;14YEH WITH THREE DOTS BELOW;18BARREE
24 WITH HAMZA ABOVE;07FULL STOP;07LETTER AE;07SMALL HIGH LIGATURE SAD WITH LAM WITH ALEF MAKSURA
27QAF WITH LAM WITH ALEF MAKSURA;18MEEM INITIAL FORM;18LAM ALEF;18JEEM;18THREE DOTS;18SEEN
07END OF AYAH;07START OF RUB EL HIZB;08MALL HIGH ROUNDED ZERO;18UPRIGHT RECTANGULAR ZERO
18DOTLESS HEAD OF KHAH;18MEEM ISOLATED FORM;13LOW SEEN;13HIGH MADDA;13WAW;13YEH;13HIGH YEH;18NOON
07PLACE OF SAJDAH;07EMPTY CENTRE LOW STOP;20HIGH STOP;07ROUNDED HIGH STOP WITH FILLED CENTRE
07SMALL LOW MEEM;07LETTER DAL WITH INVERTED V;14REH WITH INVERTED V
00EXTENDED ARABIC-INDIC DIGIT ZERO;28ONE;28TWO;29HREE;28FOUR;29IVE;28SIX;29EVEN;28EIGHT;28NINE
00ARABIC LETTER SHEEN WITH DOT BELOW;14DAD WITH DOT BELOW;14GHAIN WITH DOT BELOW
07SIGN SINDHI AMPERSAND;19POSTPOSITION MEN;07LETTER HEH WITH INVERTED V;00SYRIAC END OF PARAGRAPH
07SUPRALINEAR FULL STOP;09BLINEAR FULL STOP;09PRALINEAR COLON;09BLINEAR COLON;07HORIZONTAL COLON
07COLON SKEWED LEFT;20RIGHT;07SUPRALINEAR COLON SKEWED LEFT;09BLINEAR COLON SKEWED RIGHT
07CONTRACTION;07HARKLEAN OBELUS;16METOBELUS;16ASTERISCUS;+70F;07ABBREVIATION MARK;07LETTER ALAPH
14SUPERSCRIPT ALAPH;14BETH;14GAMAL;19 GARSHUNI;14DALATH;15OTLESS DALATH RISH;14HE;14WAW;14ZAIN
14HETH;14TETH;18 GARSHUNI;14YUDH;18 HE;14KAPH;14LAMADH;14MIM;14NUN;14SEMKATH;14FINAL SEMKATH;14E
14PE;14REVERSED PE;14SADHE;14QAPH;14RISH;14SHIN;14TAW;14PERSIAN BHETH;22GHAMAL;22DHALATH
07PTHAHA ABOVE;14BELOW;14DOTTED;07ZQAPHA ABOVE;14BELOW;14DOTTED;07RBASA ABOVE;13BELOW
07DOTTED ZLAMA HORIZONTAL;20ANGULAR;07HBASA ABOVE;13BELOW;12-ESASA DOTTED;07ESASA ABOVE;13BELOW
07RWAHA;07FEMININE DOT;07QUSHSHAYA;07RUKKAKHA;07TWO VERTICAL DOTS ABOVE;25BELOW;08HREE DOTS ABOVE
18BELOW;07OBLIQUE LINE ABOVE;20BELOW;07MUSIC;07BARREKH;+74D;07LETTER SOGDIAN ZHAIN;22KHAPH;22FE
00ARABIC LETTER BEH WITH THREE DOTS HORIZONTALLY BELOW;23DOT BELOW AND THREE DOTS ABOVE
23THREE DOTS POINTING UPWARDS BELOW;56 AND TWO DOTS ABOVE;24WO DOTS BELOW AND DOT ABOVE
23INVERTED SMALL V BELOW;23SMALL V;14HAH WITH TWO DOTS ABOVE;24HREE DOTS POINTING UPWARDS BELOW
14DAL WITH TWO DOTS VERTICALLY BELOW AND SMALL TAH;23INVERTED SMALL V BELOW;14REH WITH STROKE
14SEEN WITH FOUR DOTS ABOVE;14AIN WITH TWO DOTS ABOVE;24HREE DOTS POINTING DOWNWARDS ABOVE
24WO DOTS VERTICALLY ABOVE;14FEH WITH TWO DOTS BELOW;24HREE DOTS POINTING UPWARDS BELOW
14KEHEH WITH DOT ABOVE;25THREE DOTS ABOVE;36POINTING UPWARDS BELOW;14MEEM WITH DOT ABOVE;28BELOW
14NOON WITH TWO DOTS BELOW;24SMALL TAH;30V;14LAM WITH BAR;14REH WITH TWO DOTS VERTICALLY ABOVE
23HAMZA ABOVE;14SEEN WITH TWO DOTS VERTICALLY ABOVE;14HAH WITH SMALL ARABIC LETTER TAH BELOW
47AND TWO DOTS;14SEEN WITH SMALL ARABIC LETTER TAH AND TWO DOTS
14REH WITH SMALL ARABIC LETTER TAH AND TWO DOTS;14HAH WITH SMALL ARABIC LETTER TAH ABOVE
14ALEF WITH EXTENDED ARABIC-INDIC DIGIT TWO ABOVE;53HREE ABOVE
14FARSI YEH WITH EXTENDED ARABIC-INDIC DIGIT TWO ABOVE;58HREE ABOVE;57FOUR BELOW
14WAW WITH EXTENDED ARABIC-INDIC DIGIT TWO ABOVE;52HREE ABOVE
14YEH BARREE WITH EXTENDED ARABIC-INDIC DIGIT TWO ABOVE;59HREE ABOVE
14HAH WITH EXTENDED ARABIC-INDIC DIGIT FOUR BELOW
14SEEN WITH EXTENDED ARABIC-INDIC DIGIT FOUR ABOVE;24INVERTED V;14KAF WITH TWO DOTS ABOVE
00THAANA LETTER HAA;14SHAVIYANI;14NOONU;14RAA;14BAA;14LHAVIYANI;14KAAFU;14ALIFU;14VAAVU;14MEEMU
14FAAFU;14DHAALU;14THAA;14LAAMU;14GAAFU;15NAVIYANI;14SEENU;14DAVIYANI;14ZAVIYANI;14TAVIYANI;14YAA
14PAVIYANI;14JAVIYANI;14CHAVIYANI;14TTAA;14HHAA;14KHAA;14THAALU;14ZAA;14SHEENU;15AADHU;14DAADHU
14TO;14ZO;14AINU;14GHAINU;14QAAFU;14WAAVU;07ABAFILI;08ABAAFILI;07IBIFILI;07EEBEEFILI;07UBUFILI
07OOBOOFILI;07EBEFILI;08YBEYFILI;07OBOFILI;08ABOAFILI;07SUKUN;07LETTER NAA;+7C0;00NKO DIGIT ZERO
10ONE;10TWO;11HREE;10FOUR;11IVE;10SIX;11EVEN;10EIGHT;10NINE;04LETTER A;11EE;11I;11E;11U;11OO;12
11DAGBASINNA;11N;11BA;11PA;11TA;11JA;11CHA;11DA;11RA;12RA;11SA;11GBA;11FA;11KA;11LA;11NA WOLOSO
11MA;11NYA;12A;11HA;11WA;11YA;11NYA WOLOSO;11JONA JA;16CHA;16RA;04COMBINING SHORT HIGH TONE
20LOW TONE;20RISING TONE;14LONG DESCENDING TONE;19HIGH TONE;19LOW TONE;19RISING TONE
14NASALIZATION MARK;14DOUBLE DOT ABOVE;04HIGH TONE APOSTROPHE;04LOW TONE APOSTROPHE
04SYMBOL OO DENNEN;11GBAKURUNEN;04COMMA;04EXCLAMATION MARK;04LAJANYALAN;+7FD;04DANTAYALAN
05OROME SIGN;04TAMAN SIGN;00SAMARITAN LETTER ALAF;17BIT;17GAMAN;17DALAT;17IY;17BAA;17ZEN;17IT
17TIT;17YUT;17KAAF;17LABAT;17MIM;17NUN;17SINGAAT;17IN;17FI;17TSAADIY;17QUF;17RISH;17SHAN;17TAAF
10MARK IN;17-ALAF;15OCCLUSION;15DAGESH;11ODIFIER LETTER EPENTHETIC YUT;11ARK EPENTHETIC YUT
10VOWEL SIGN LONG E;21E;21OVERLONG AA;21LONG AA;21AA;21OVERLONG A;21LONG A;21A
10MODIFIER LETTER SHORT A;10VOWEL SIGN SHORT A;21LONG U;21U;10MODIFIER LETTER I
10VOWEL SIGN LONG I;21I;21O;21SUKUN;10MARK NEQUDAA;+830;10PUNCTUATION NEQUDAA;22AFSAAQ;23NGED
22BAU;22ATMAAU;22SHIYYAALAA;10ABBREVIATION MARK;10PUNCTUATION MELODIC QITSA;22ZIQAA;22QITSA;22ZAEF
22TURU;22ARKAANU;22SOF MASHFAAT;22ANNAAU;+840;00MANDAIC LETTER HALQA;15AB;16G;16D;16H;15USHENNA
15AZ;15IT;15ATT;16KSA;17;16L;16M;16N;16S;15IN;15AP;16SZ;16Q;16R;16SH;16T;15DUSHENNA;15KAD;15AIN
08AFFRICATION MARK;08VOCALIZATION MARK;08GEMINATION MARK;+85E;08PUNCTUATION;+860
00SYRIAC LETTER MALAYALAM NGA;24JA;24NYA;24TTA;24NNA;26NA;24BHA;24RA;24LLA;26LA;24SSA;+870
00ARABIC LETTER ALEF WITH ATTACHED FATHA;33TOP RIGHT FATHA;24RIGHT MIDDLE STROKE
24LEFT MIDDLE STROKE;24ATTACHED KASRA;33BOTTOM RIGHT KASRA;33ROUND DOT ABOVE;34IGHT ROUND DOT
33LEFT ROUND DOT;33ROUND DOT BELOW;24DOT ABOVE;24ATTACHED TOP RIGHT FATHA AND DOT ABOVE
24RIGHT MIDDLE STROKE AND DOT ABOVE;24ATTACHED BOTTOM RIGHT KASRA AND DOT ABOVE
33TOP RIGHT FATHA AND LEFT RING;24RIGHT MIDDLE STROKE AND LEFT RING
24ATTACHED BOTTOM RIGHT KASRA AND LEFT RING;33RIGHT HAMZA;33LEFT HAMZA
07TATWEEL WITH OVERSTRUCK HAMZA;31WAW;20TWO DOTS BELOW;07LETTER THIN YEH;07BASELINE ROUND DOT
07RAISED ROUND DOT;07LETTER NOON WITH INVERTED SMALL V;14HAH WITH INVERTED SMALL V BELOW
14TAH WITH DOT BELOW;23THREE DOTS BELOW;14KEHEH WITH TWO DOTS VERTICALLY BELOW;07VERTICAL TAIL
+890;07POUND MARK ABOVE;08IASTRE MARK ABOVE;+898;07SMALL HIGH WORD AL-JUZ;13LOW WORD ISHMAAM
23MAALA;22TASHEEL;07MADDA WAAJIB;07SUPERSCRIPT ALEF MOKHASSAS;07DOUBLED MADDA
07HALF MADDA OVER MADDA;07LETTER BEH WITH SMALL V BELOW;23HAMZA ABOVE;14JEEM WITH TWO DOTS ABOVE
14TAH WITH TWO DOTS ABOVE;14FEH WITH DOT BELOW AND THREE DOTS ABOVE;14QAF WITH DOT BELOW
14LAM WITH DOUBLE BAR;14MEEM WITH THREE DOTS ABOVE;14YEH WITH TWO DOTS BELOW AND HAMZA ABOVE
42DOT ABOVE;14REH WITH LOOP;14WAW WITH DOT WITHIN;14ROHINGYA YEH;14LOW ALEF
14DAL WITH THREE DOTS BELOW;14SAD WITH THREE DOTS BELOW;14GAF WITH INVERTED STROKE;14STRAIGHT WAW
14ZAIN WITH INVERTED V ABOVE;14AIN WITH THREE DOTS BELOW;14KAF WITH DOT BELOW
14QAF WITH DOT BELOW AND NO DOTS ABOVE;14BEH WITH SMALL MEEM ABOVE;14PEH WITH SMALL MEEM ABOVE
14TEH WITH SMALL TEH ABOVE;14REH WITH SMALL NOON ABOVE
14YEH WITH TWO DOTS BELOW AND SMALL NOON ABOVE;14AFRICAN FEH;22QAF;22NOON;14PEH WITH SMALL V
14TEH WITH SMALL V;15TEH WITH SMALL V;15CHEH WITH SMALL V;14KEHEH WITH SMALL V
14GHAIN WITH THREE DOTS ABOVE;14AFRICAN QAF WITH THREE DOTS ABOVE;14JEEM WITH THREE DOTS ABOVE
35BELOW;14LAM WITH SMALL ARABIC LETTER TAH ABOVE;14GRAF;07SMALL FARSI YEH;13HIGH FARSI YEH
18YEH BARREE WITH TWO DOTS BELOW;18WORD SAH;18ZAH;07LARGE ROUND DOT ABOVE;23BELOW;07SUKUN BELOW
07LARGE CIRCLE BELOW;13ROUND DOT INSIDE CIRCLE BELOW;07SMALL LOW WAW;13HIGH WORD AR-RUB;18SAD
18AIN;18QAF;18NOON WITH KASRA;13LOW NOON WITH KASRA;13HIGH WORD ATH-THALATHA;24S-SAJDA;24N-NISF
23SAKTA;23QIF;23WAQFA;18FOOTNOTE MARKER;18SIGN SAFHA;07DISPUTED END OF AYAH;07TURNED DAMMA BELOW
07CURLY FATHA;13DAMMA;13KASRA;13FATHATAN;13DAMMATAN;13KASRATAN;07TONE ONE DOT ABOVE
12TWO DOTS ABOVE;12LOOP ABOVE;12ONE DOT BELOW;12TWO DOTS BELOW;12LOOP BELOW;07OPEN FATHATAN
12DAMMATAN;12KASRATAN;07SMALL HIGH WAW;07FATHA WITH RING;18DOT ABOVE;07KASRA WITH DOT BELOW
07LEFT ARROWHEAD ABOVE;07RIGHT ARROWHEAD ABOVE;07LEFT ARROWHEAD BELOW;07RIGHT ARROWHEAD BELOW
07DOUBLE RIGHT ARROWHEAD ABOVE;35 WITH DOT;07RIGHT ARROWHEAD ABOVE WITH DOT;07DAMMA WITH DOT
07MARK SIDEWAYS NOON GHUNNA;00DEVANAGARI SIGN INVERTED CANDRABINDU;16CANDRABINDU;16ANUSVARA
16VISARGA;11LETTER SHORT A;18A;19A;18I;19I;18U;19U;18VOCALIC R;26L;18CANDRA E;18SHORT E;18E;18AI
18CANDRA O;18SHORT O;18O;18AU;18KA;19HA;18GA;19HA;18NGA;18CA;19HA;18JA;19HA;18NYA;18TTA;20HA;18DDA
20HA;18NNA;18TA;19HA;18DA;19HA;18NA;19NNA;18PA;19HA;18BA;19HA;18MA;18YA;18RA;19RA;18LA;19LA;20LA
18VA;18SHA;19SA;19A;18HA;11VOWEL SIGN OE;23OE;11SIGN NUKTA;16AVAGRAHA;11VOWEL SIGN AA;22I;23I;22U
23U;22VOCALIC R;31R;22CANDRA E;22SHORT E;22E;22AI;22CANDRA O;22SHORT O;22O;22AU;11SIGN VIRAMA
11VOWEL SIGN PRISHTHAMATRA E;22AW;11OM;11STRESS SIGN UDATTA;23ANUDATTA;11GRAVE ACCENT
11ACUTE ACCENT;11VOWEL SIGN CANDRA LONG E;22UE;23UE;11LETTER QA;18KHHA;18GHHA;18ZA;18DDDHA;18RHA
18FA;18YYA;18VOCALIC RR;26LL;11VOWEL SIGN VOCALIC L;31L;11DANDA;12OUBLE DANDA;12IGIT ZERO;17ONE
17TWO;18HREE;17FOUR;18IVE;17SIX;18EVEN;17EIGHT;17NINE;11ABBREVIATION SIGN;11SIGN HIGH SPACING DOT
11LETTER CANDRA A;18OE;19OE;18AW;18UE;19UE;18MARWARI DDA;18ZHA;18HEAVY YA;18GGA;18JJA
18GLOTTAL STOP;18DDDA;18BBA;00BENGALI ANJI;08SIGN CANDRABINDU;13ANUSVARA;13VISARGA;+985;08LETTER A
16A;15I;16I;15U;16U;15VOCALIC R;23L;+98F;15E;15AI;+993;15O;15AU;15KA;16HA;15GA;16HA;15NGA;15CA
16HA;15JA;16HA;15NYA;15TTA;17HA;15DDA;17HA;15NNA;15TA;16HA;15DA;16HA;15NA;+9AA;15PA;16HA;15BA;16HA
15MA;15YA;15RA;+9B2;15LA;+9B6;15SHA;16SA;16A;15HA;+9BC;08SIGN NUKTA;13AVAGRAHA;08VOWEL SIGN AA;19I
20I;19U;20U;19VOCALIC R;28R;+9C7;19E;19AI;+9CB;19O;19AU;08SIGN VIRAMA;08LETTER KHANDA TA;+9D7
08AU LENGTH MARK;+9DC;08LETTER RRA;16HA;+9DF;15YYA;15VOCALIC RR;23LL;08VOWEL SIGN VOCALIC L;28L
+9E6;08DIGIT ZERO;14ONE;14TWO;15HREE;14FOUR;15IVE;14SIX;15EVEN;14EIGHT;14NINE
08LETTER RA WITH MIDDLE DIAGONAL;23LOWER DIAGONAL;08RUPEE MARK;14SIGN;08CURRENCY NUMERATOR ONE
27TWO;28HREE;27FOUR;27ONE LESS THAN THE DENOMINATOR;17DENOMINATOR SIXTEEN;08ISSHAR;08GANDA MARK
08LETTER VEDIC ANUSVARA;08ABBREVIATION SIGN;08SANDHI MARK;+A01;00GURMUKHI SIGN ADAK BINDI;14BINDI
14VISARGA;+A05;09LETTER A;17A;16I;17I;16U;17U;+A0F;16EE;16AI;+A13;16OO;16AU;16KA;17HA;16GA;17HA
16NGA;16CA;17HA;16JA;17HA;16NYA;16TTA;18HA;16DDA;18HA;16NNA;16TA;17HA;16DA;17HA;16NA;+A2A;16PA
17HA;16BA;17HA;16MA;16YA;16RA;+A32;16LA;17LA;+A35;16VA;16SHA;+A38;17A;16HA;+A3C;09SIGN NUKTA;+A3E
09VOWEL SIGN AA;20I;21I;20U;21U;+A47;20EE;20AI;+A4B;20OO;20AU;09SIGN VIRAMA;+A51;14UDAAT;+A59
09LETTER KHHA;16GHHA;16ZA;16RRA;+A5E;16FA;+A66;09DIGIT ZERO;15ONE;15TWO;16HREE;15FOUR;16IVE;15SIX
16EVEN;15EIGHT;15NINE;09TIPPI;09ADDAK;09IRI;09URA;09EK ONKAR;09SIGN YAKASH;09ABBREVIATION SIGN
+A81;02JARATI SIGN CANDRABINDU;14ANUSVARA;14VISARGA;+A85;09LETTER A;17A;16I;17I;16U;17U
16VOCALIC R;24L;09VOWEL CANDRA E;+A8F;09LETTER E;16AI;09VOWEL CANDRA O;+A93;09LETTER O;16AU;16KA
17HA;16GA;17HA;16NGA;16CA;17HA;16JA;17HA;16NYA;16TTA;18HA;16DDA;18HA;16NNA;16TA;17HA;16DA;17HA
16NA;+AAA;16PA;17HA;16BA;17HA;16MA;16YA;16RA;+AB2;16LA;17LA;+AB5;16VA;16SHA;17SA;17A;16HA;+ABC
09SIGN NUKTA;14AVAGRAHA;09VOWEL SIGN AA;20I;21I;20U;21U;20VOCALIC R;29R;20CANDRA E;+AC7;20E;20AI
20CANDRA O;+ACB;20O;20AU;09SIGN VIRAMA;+AD0;09OM;+AE0;09LETTER VOCALIC RR;24LL
09VOWEL SIGN VOCALIC L;29L;+AE6;09DIGIT ZERO;15ONE;15TWO;16HREE;15FOUR;16IVE;15SIX;16EVEN;15EIGHT
15NINE;09ABBREVIATION SIGN;09RUPEE SIGN;+AF9;09LETTER ZHA;09SIGN SUKUN;15HADDA;14MADDAH
14THREE-DOT NUKTA ABOVE;14CIRCLE NUKTA ABOVE;14TWO-CIRCLE NUKTA ABOVE;+B01
00ORIYA SIGN CANDRABINDU;11ANUSVARA;11VISARGA;+B05;06LETTER A;14A;13I;14I;13U;14U;13VOCALIC R;21L
+B0F;13E;13AI;+B13;13O;13AU;13KA;14HA;13GA;14HA;13NGA;13CA;14HA;13JA;14HA;13NYA;13TTA;15HA;13DDA
15HA;13NNA;13TA;14HA;13DA;14HA;13NA;+B2A;13PA;14HA;13BA;14HA;13MA;13YA;13RA;+B32;13LA;14LA;+B35
13VA;13SHA;14SA;14A;13HA;+B3C;06SIGN NUKTA;11AVAGRAHA;06VOWEL SIGN AA;17I;18I;17U;18U;17VOCALIC R
26R;+B47;17E;17AI;+B4B;17O;17AU;06SIGN VIRAMA;+B55;11OVERLINE;06AI LENGTH MARK;07U LENGTH MARK
+B5C;06LETTER RRA;14HA;+B5F;13YYA;13VOCALIC RR;21LL;06VOWEL SIGN VOCALIC L;26L;+B66;06DIGIT ZERO
12ONE;12TWO;13HREE;12FOUR;13IVE;12SIX;13EVEN;12EIGHT;12NINE;06ISSHAR;06LETTER WA
06FRACTION ONE QUARTER;19HALF;15THREE QUARTERS;15ONE SIXTEENTH;19EIGHTH;15THREE SIXTEENTHS;+B82
00TAMIL SIGN ANUSVARA;11VISARGA;+B85;06LETTER A;14A;13I;14I;13U;14U;+B8E;13E;14E;13AI;+B92;13O;14O
13AU;13KA;+B99;13NGA;13CA;+B9C;13JA;+B9E;13NYA;13TTA;+BA3;13NNA;13TA;+BA8;13NA;14NNA;13PA;+BAE
13MA;13YA;13RA;14RA;13LA;14LA;15LA;13VA;13SHA;14SA;14A;13HA;+BBE;06VOWEL SIGN AA;17I;18I;17U;18U
+BC6;17E;18E;17AI;+BCA;17O;18O;17AU;06SIGN VIRAMA;+BD0;06OM;+BD7;06AU LENGTH MARK;+BE6
06DIGIT ZERO;12ONE;12TWO;13HREE;12FOUR;13IVE;12SIX;13EVEN;12EIGHT;12NINE;06NUMBER TEN
13ONE HUNDRED;17THOUSAND;06DAY SIGN;06MONTH SIGN;06YEAR SIGN;06DEBIT SIGN;06CREDIT SIGN
06AS ABOVE SIGN;06RUPEE SIGN;06NUMBER SIGN;+C00;01ELUGU SIGN COMBINING CANDRABINDU ABOVE
13ANDRABINDU;12ANUSVARA;12VISARGA;12COMBINING ANUSVARA ABOVE;07LETTER A;15A;14I;15I;14U;15U
14VOCALIC R;22L;+C0E;14E;15E;14AI;+C12;14O;15O;14AU;14KA;15HA;14GA;15HA;14NGA;14CA;15HA;14JA;15HA
14NYA;14TTA;16HA;14DDA;16HA;14NNA;14TA;15HA;14DA;15HA;14NA;+C2A;14PA;15HA;14BA;15HA;14MA;14YA;14RA
15RA;14LA;15LA;16LA;14VA;14SHA;15SA;15A;14HA;+C3C;07SIGN NUKTA;12AVAGRAHA;07VOWEL SIGN AA;18I;19I
18U;19U;18VOCALIC R;27R;+C46;18E;19E;18AI;+C4A;18O;19O;18AU;07SIGN VIRAMA;+C55;07LENGTH MARK
07AI LENGTH MARK;+C58;07LETTER TSA;14DZA;14RRRA;+C5D;14NAKAARA POLLU;+C60;14VOCALIC RR;22LL
07VOWEL SIGN VOCALIC L;27L;+C66;07DIGIT ZERO;13ONE;13TWO;14HREE;13FOUR;14IVE;13SIX;14EVEN;13EIGHT
13NINE;+C77;07SIGN SIDDHAM;07FRACTION DIGIT ZERO FOR ODD POWERS OF FOUR
22ONE FOR ODD POWERS OF FOUR;22TWO FOR ODD POWERS OF FOUR;23HREE FOR ODD POWERS OF FOUR
22ONE FOR EVEN POWERS OF FOUR;22TWO FOR EVEN POWERS OF FOUR;23HREE FOR EVEN POWERS OF FOUR
07SIGN TUUMU;00KANNADA SIGN SPACING CANDRABINDU;13CANDRABINDU;13ANUSVARA;13VISARGA;13SIDDHAM
08LETTER A;16A;15I;16I;15U;16U;15VOCALIC R;23L;+C8E;15E;16E;15AI;+C92;15O;16O;15AU;15KA;16HA;15GA
16HA;15NGA;15CA;16HA;15JA;16HA;15NYA;15TTA;17HA;15DDA;17HA;15NNA;15TA;16HA;15DA;16HA;15NA;+CAA
15PA;16HA;15BA;16HA;15MA;15YA;15RA;16RA;15LA;16LA;+CB5;15VA;15SHA;16SA;16A;15HA;+CBC;08SIGN NUKTA
13AVAGRAHA;08VOWEL SIGN AA;19I;20I;19U;20U;19VOCALIC R;28R;+CC6;19E;20E;19AI;+CCA;19O;20O;19AU
08SIGN VIRAMA;+CD5;08LENGTH MARK;08AI LENGTH MARK;+CDD;08LETTER NAKAARA POLLU;15FA;+CE0
15VOCALIC RR;23LL;08VOWEL SIGN VOCALIC L;28L;+CE6;08DIGIT ZERO;14ONE;14TWO;15HREE;14FOUR;15IVE
14SIX;15EVEN;14EIGHT;14NINE;+CF1;08SIGN JIHVAMULIYA;13UPADHMANIYA;+D00
00MALAYALAM SIGN COMBINING ANUSVARA ABOVE;16ANDRABINDU;15ANUSVARA;15VISARGA
10LETTER VEDIC ANUSVARA;17A;18A;17I;18I;17U;18U;17VOCALIC R;25L;+D0E;17E;18E;17AI;+D12;17O;18O
17AU;17KA;18HA;17GA;18HA;17NGA;17CA;18HA;17JA;18HA;17NYA;17TTA;19HA;17DDA;19HA;17NNA;17TA;18HA
17DA;18HA;17NA;18NNA;17PA;18HA;17BA;18HA;17MA;17YA;17RA;18RA;17LA;18LA;19LA;17VA;17SHA;18SA;18A
17HA;17TTTA;10SIGN VERTICAL BAR VIRAMA;15CIRCULAR VIRAMA;15AVAGRAHA;10VOWEL SIGN AA;21I;22I;21U
22U;21VOCALIC R;30R;+D46;21E;22E;21AI;+D4A;21O;22O;21AU;10SIGN VIRAMA;10LETTER DOT REPH
10SIGN PARA;+D54;10LETTER CHILLU M;24Y;24LLL;10AU LENGTH MARK
10FRACTION ONE ONE-HUNDRED-AND-SIXTIETH;23FORTIETH;19THREE EIGHTIETHS;19ONE TWENTIETH;24ENTH
19THREE TWENTIETHS;19ONE FIFTH;10LETTER ARCHAIC II;17VOCALIC RR;25LL;10VOWEL SIGN VOCALIC L;30L
+D66;10DIGIT ZERO;16ONE;16TWO;17HREE;16FOUR;17IVE;16SIX;17EVEN;16EIGHT;16NINE;10NUMBER TEN
17ONE HUNDRED;21THOUSAND;10FRACTION ONE QUARTER;23HALF;19THREE QUARTERS;19ONE SIXTEENTH;23EIGHTH
19THREE SIXTEENTHS;10DATE MARK;10LETTER CHILLU NN;25;24RR;24L;25L;24K;+D81
00SINHALA SIGN CANDRABINDU;13ANUSVARAYA;13VISARGAYA;+D85;08LETTER AYANNA;16AYANNA;16EYANNA
17EYANNA;15IYANNA;16IYANNA;15UYANNA;16UYANNA;15IRUYANNA;18UYANNA;16LUYANNA;18UYANNA;15EYANNA
16EYANNA;15AIYANNA;15OYANNA;16OYANNA;15AUYANNA;+D9A;16LPAPRAANA KAYANNA;15MAHAAPRAANA KAYANNA
15ALPAPRAANA GAYANNA;15MAHAAPRAANA GAYANNA;15KANTAJA NAASIKYAYA;15SANYAKA GAYANNA
15ALPAPRAANA CAYANNA;15MAHAAPRAANA CAYANNA;15ALPAPRAANA JAYANNA;15MAHAAPRAANA JAYANNA
15TAALUJA NAASIKYAYA;23SANYOOGA NAAKSIKYAYA;15SANYAKA JAYANNA;15ALPAPRAANA TTAYANNA
15MAHAAPRAANA TTAYANNA;15ALPAPRAANA DDAYANNA;15MAHAAPRAANA DDAYANNA;16UURDHAJA NAYANNA
15SANYAKA DDAYANNA;15ALPAPRAANA TAYANNA;15MAHAAPRAANA TAYANNA;15ALPAPRAANA DAYANNA
15MAHAAPRAANA DAYANNA;15DANTAJA NAYANNA;+DB3;15SANYAKA DAYANNA;15ALPAPRAANA PAYANNA
15MAHAAPRAANA PAYANNA;15ALPAPRAANA BAYANNA;15MAHAAPRAANA BAYANNA;17YANNA;15AMBA BAYANNA;15YAYANNA
15RAYANNA;+DBD;15DANTAJA LAYANNA;+DC0;15VAYANNA;15TAALUJA SAYANNA;15MUURDHAJA SAYANNA
15DANTAJA SAYANNA;15HAYANNA;15MUURDHAJA LAYANNA;15FAYANNA;+DCA;08SIGN AL-LAKUNA;+DCF
08VOWEL SIGN AELA-PILLA;19KETTI AEDA-PILLA;19DIGA AEDA-PILLA;19KETTI IS-PILLA;19DIGA IS-PILLA
19KETTI PAA-PILLA;+DD6;19DIGA PAA-PILLA;+DD8;19GAETTA-PILLA;19KOMBUVA;19DIGA KOMBUVA;19KOMBU DEKA
24VA HAA AELA-PILLA;31DIGA AELA-PILLA;31GAYANUKITTA;19GAYANUKITTA;+DE6;08LITH DIGIT ZERO;19ONE
19TWO;20HREE;19FOUR;20IVE;19SIX;20EVEN;19EIGHT;19NINE;+DF2;08VOWEL SIGN DIGA GAETTA-PILLA
26YANUKITTA;08PUNCTUATION KUNDDALIYA;+E01;00THAI CHARACTER KO KAI;16HO KHAI;21UAT;21WAI;21ON
19RAKHANG;15NGO NGU;15CHO CHAN;21ING;21ANG;15SO SO;15CHO CHOE;15YO YING;15DO CHADA;15TO PATAK
16HO THAN;19NANGMONTHO;19PHUTHAO;15NO NEN;15DO DEK;15TO TAO;16HO THUNG;21AHAN;21ONG;15NO NU
15BO BAIMAI;15PO PLA;16HO PHUNG;15FO FA;15PHO PHAN;15FO FAN;15PHO SAMPHAO;15MO MA;15YO YAK
15RO RUA;16U;15LO LING;16U;15WO WAEN;15SO SALA;18RUSI;18SUA;15HO HIP;15LO CHULA;15O ANG
15HO NOKHUK;15PAIYANNOI;15SARA A;15MAI HAN-AKAT;15SARA AA;21M;20I;21I;20UE;22E;21;21U;15PHINTHU
+E3F;06URRENCY SYMBOL BAHT;06HARACTER SARA E;20AE;20O;20AI MAIMUAN;27ALAI;15LAKKHANGYAO;15MAIYAMOK
18TAIKHU;18 EK;19THO;20RI;19CHATTAWA;15THANTHAKHAT;15NIKHAHIT;15YAMAKKAN;15FONGMAN;05DIGIT ZERO
11ONE;11TWO;12HREE;11FOUR;12IVE;11SIX;12EVEN;11EIGHT;11NINE;05CHARACTER ANGKHANKHU;15KHOMUT;+E81
00LAO LETTER KO;12HO SUNG;+E84;15TAM;+E86;11PALI GHA;11NGO;11CO;11PALI CHA;11SO TAM;+E8C
11PALI JHA;11NYO;11PALI NYA;16TTA;18HA;16DDA;18HA;16NNA;11DO;11TO;12HO SUNG;15TAM;11PALI DHA;11NO
11BO;11PO;12HO SUNG;11FO TAM;11PHO TAM;11FO SUNG;11PALI BHA;11MO;11YO;11LO LING;+EA5;15OOT;+EA7
11WO;11SANSKRIT SHA;21SA;12O SUNG;11HO SUNG;11PALI LLA;11O;11HO TAM;04ELLIPSIS;04VOWEL SIGN A
15MAI KAN;15AA;16M;15I;16I;15Y;16Y;15U;16U;04SIGN PALI VIRAMA;04VOWEL SIGN MAI KON
04SEMIVOWEL SIGN LO;19NYO;+EC0;04VOWEL SIGN E;16I;15O;15AY;16I;+EC6;04KO LA;+EC8;04TONE MAI EK
13THO;14I;13CATAWA;04CANCELLATION MARK;04NIGGAHITA;+ED0;04DIGIT ZERO;10ONE;10TWO;11HREE;10FOUR
11IVE;10SIX;11EVEN;10EIGHT;10NINE;+EDC;04HO NO;07MO;04LETTER KHMU GO;16NYO;+F00
00TIBETAN SYLLABLE OM;08MARK GTER YIG MGO TRUNCATED A;26-UM RNAM BCAD MA;30GTER TSHEG MA
13INITIAL YIG MGO MDUN MA;13CLOSING YIG MGO SGAB MA;14ARET YIG MGO PHUR SHAD MA
13YIG MGO TSHEG SHAD MA;13SBRUL SHAD;13BSKUR YIG MGO;14KA- SHOG YIG MGO;13INTERSYLLABIC TSHEG
13DELIMITER TSHEG BSTAR;13SHAD;13NYIS SHAD;13TSHEG SHAD;13NYIS TSHEG SHAD;13RIN CHEN SPUNGS SHAD
14GYA GRAM SHAD;13CARET -DZUD RTAGS ME LONG CAN;13GTER TSHEG;08LOGOTYPE SIGN CHAD RTAGS
22LHAG RTAGS;08ASTROLOGICAL SIGN SGRA GCAN -CHAR RTAGS;26-KHYUD PA;26SDONG TSHUGS
08SIGN RDEL DKAR GCIG;24NYIS;24SUM;18NAG GCIG;23NYIS;18DKAR RDEL NAG;08DIGIT ZERO;14ONE;14TWO
15HREE;14FOUR;15IVE;14SIX;15EVEN;14EIGHT;14NINE;14HALF ONE;19TWO;20HREE;19FOUR;20IVE;19SIX;20EVEN
19EIGHT;19NINE;19ZERO;08MARK BSDUS RTAGS;13NGAS BZUNG NYI ZLA;13CARET -DZUD RTAGS BZHI MIG CAN
13NGAS BZUNG SGOR RTAGS;13CHE MGO;13TSA -PHRU;13GUG RTAGS GYON;25AS;13ANG KHANG GYON;25AS
08SIGN YAR TSHES;13MAR TSHES;08LETTER KA;16HA;15GA;16HA;15NGA;15CA;16HA;15JA;+F49;15NYA;15TTA;17HA
15DDA;17HA;15NNA;15TA;16HA;15DA;16HA;15NA;15PA;16HA;15BA;16HA;15MA;15TSA;17HA;15DZA;17HA;15WA
15ZHA;16A;15-A;15YA;15RA;15LA;15SHA;16SA;16A;15HA;15A;15KSSA;15FIXED-FORM RA;15KKA;15RRA;+F71
08VOWEL SIGN AA;19I;20I;19U;20U;19VOCALIC R;28R;27L;28L;19E;20E;19O;20O;08SIGN RJES SU NGA RO
14NAM BCAD;08VOWEL SIGN REVERSED I;29I;08SIGN NYI ZLA NAA DA;13SNA LDAN;08MARK HALANTA;13PALUTA
08SIGN LCI RTAGS;13YANG RTAGS;13LCE TSA CAN;13MCHU CAN;13GRU CAN RGYINGS;17MED RGYINGS
13INVERTED MCHU CAN;09UBJOINED SIGN LCE TSA CAN;23MCHU CAN;23INVERTED MCHU CAN;18LETTER KA;26HA
25GA;26HA;25NGA;25CA;26HA;25JA;+F99;25NYA;25TTA;27HA;25DDA;27HA;25NNA;25TA;26HA;25DA;26HA;25NA
25PA;26HA;25BA;26HA;25MA;25TSA;27HA;25DZA;27HA;25WA;25ZHA;26A;25-A;25YA;25RA;25LA;25SHA;26SA;26A
25HA;25A;25KSSA;25FIXED-FORM WA;36YA;36RA;+FBE;08KU RU KHA;17 BZHI MIG CAN
08CANTILLATION SIGN HEAVY BEAT;26LIGHT BEAT;26CANG TE-U;26SBUB -CHAL;08SYMBOL DRIL BU;15RDO RJE
15PADMA GDAN;15RDO RJE RGYA GRAM;15PHUR PA;15NOR BU;21 NYIS -KHYIL;22GSUM -KHYIL;22BZHI -KHYIL
+FCE;09IGN RDEL NAG RDEL DKAR;22GSUM;08MARK BSKA- SHOG GI MGO RGYAN;13MNYAM YIG GI MGO RGYAN
13NYIS TSHEG;13INITIAL BRDA RNYING YIG MGO MDUN MA;13CLOSING BRDA RNYING YIG MGO SGAB MA
00RIGHT-FACING SVASTI SIGN;00LEFT-FACING SVASTI SIGN;00RIGHT-FACING SVASTI SIGN WITH DOTS
00LEFT-FACING SVASTI SIGN WITH DOTS;00TIBETAN MARK LEADING MCHAN RTAGS;13TRAILING MCHAN RTAGS
+1000;00MYANMAR LETTER KA;16HA;15GA;16HA;15NGA;15CA;16HA;15JA;16HA;15NYA;16NYA;15TTA;17HA;15DDA
17HA;15NNA;15TA;16HA;15DA;16HA;15NA;15PA;16HA;15BA;16HA;15MA;15YA;15RA;15LA;15WA;15SA;15HA;15LLA
15A;15SHAN A;15I;16I;15U;16U;15E;15MON E;15O;15AU;08VOWEL SIGN TALL AA;19AA;19I;20I;19U;20U;19E
19AI;19MON II;23O;19E ABOVE;08SIGN ANUSVARA;13DOT BELOW;13VISARGA;15RAMA;13ASAT
08CONSONANT SIGN MEDIAL YA;30RA;30WA;30HA;08LETTER GREAT SA;08DIGIT ZERO;14ONE;14TWO;15HREE;14FOUR
15IVE;14SIX;15EVEN;14EIGHT;14NINE;08SIGN LITTLE SECTION;13SECTION;09YMBOL LOCATIVE;15COMPLETED
15AFOREMENTIONED;15GENITIVE;08LETTER SHA;16SA;15VOCALIC R;24R;23L;24L;08VOWEL SIGN VOCALIC R;28R
27L;28L;08LETTER MON NGA;19JHA;19BBA;21E;08CONSONANT SIGN MON MEDIAL NA;34MA;34LA
08LETTER SGAW KAREN SHA;08VOWEL SIGN SGAW KAREN EU;08TONE MARK SGAW KAREN HATHI;29KE PHO
08LETTER WESTERN PWO KAREN THA;33PWA;08VOWEL SIGN WESTERN PWO KAREN EU;37UE
08SIGN WESTERN PWO KAREN TONE-1;362;363;364;365;08LETTER EASTERN PWO KAREN NNA;33YWA;33GHWA
08VOWEL SIGN GEBA KAREN I;19KAYAH OE;25U;25EE;08LETTER SHAN KA;21HA;20GA;20CA;20ZA;20NYA;20DA;20NA
20PHA;20FA;20BA;20THA;20HA;08CONSONANT SIGN SHAN MEDIAL WA;08VOWEL SIGN SHAN AA;24E;25 ABOVE
24FINAL Y;08SIGN SHAN TONE-2;233;235;236;18COUNCIL TONE-2;313;26EMPHATIC TONE
08LETTER RUMAI PALAUNG FA;08SIGN RUMAI PALAUNG TONE-5;09HAN DIGIT ZERO;19ONE;19TWO;20HREE;19FOUR
20IVE;19SIX;20EVEN;19EIGHT;19NINE;09IGN KHAMTI TONE-1;253;08VOWEL SIGN AITON A;26I
08SYMBOL SHAN ONE;20EXCLAMATION;00GEORGIAN CAPITAL LETTER AN;24BAN;24GAN;24DON;24EN;24VIN;24ZEN
24TAN;24IN;24KAN;24LAS;24MAN;24NAR;24ON;24PAR;24ZHAR;24RAE;24SAN;24TAR;24UN;24PHAR;24KHAR;24GHAN
24QAR;24SHIN;24CHIN;25AN;24JIL;24CIL;25HAR;24XAN;24JHAN;24HAE;25E;25IE;24WE;24HAR;25OE;+10C7;24YN
+10CD;24AEN;+10D0;09LETTER AN;16BAN;16GAN;16DON;16EN;16VIN;16ZEN;16TAN;16IN;16KAN;16LAS;16MAN
16NAR;16ON;16PAR;16ZHAR;16RAE;16SAN;16TAR;16UN;16PHAR;16KHAR;16GHAN;16QAR;16SHIN;16CHIN;17AN;16JIL
16CIL;17HAR;16XAN;16JHAN;16HAE;17E;17IE;16WE;16HAR;17OE;16FI;16YN;16ELIFI;16TURNED GAN;16AIN
09PARAGRAPH SEPARATOR;00MODIFIER LETTER GEORGIAN NAR;00GEORGIAN LETTER AEN;16HARD SIGN
16LABIAL SIGN;00HANGUL CHOSEONG KIYEOK;16SSANGKIYEOK;16NIEUN;16TIKEUT;16SSANGTIKEUT;16RIEUL
16MIEUM;16PIEUP;16SSANGPIEUP;17IOS;17SANGSIOS;16IEUNG;16CIEUC;16SSANGCIEUC;16CHIEUCH;16KHIEUKH
16THIEUTH;16PHIEUPH;16HIEUH;16NIEUN-KIYEOK;16SSANGNIEUN;16NIEUN-TIKEUT;22PIEUP;16TIKEUT-KIYEOK
16RIEUL-NIEUN;16SSANGRIEUL;16RIEUL-HIEUH;16KAPYEOUNRIEUL;16MIEUM-PIEUP;16KAPYEOUNMIEUM
16PIEUP-KIYEOK;22NIEUN;22TIKEUT;22SIOS;26-KIYEOK;27TIKEUT;27PIEUP;23SANGSIOS;23IOS-CIEUC;22CIEUC
23HIEUCH;22THIEUTH;22PHIEUPH;16KAPYEOUNPIEUP;24SSANGPIEUP;16SIOS-KIYEOK;21NIEUN;21TIKEUT;21RIEUL
21MIEUM;21PIEUP;26-KIYEOK;21SSANGSIOS;21IEUNG;21CIEUC;22HIEUCH;21KHIEUKH;21THIEUTH;21PHIEUPH
21HIEUH;16CHITUEUMSIOS;25SANGSIOS;17EONGCHIEUMSIOS;28SANGSIOS;16PANSIOS;16IEUNG-KIYEOK;22TIKEUT
22MIEUM;22PIEUP;22SIOS;22PANSIOS;16SSANGIEUNG;16IEUNG-CIEUC;23HIEUCH;22THIEUTH;22PHIEUPH
16YESIEUNG;16CIEUC-IEUNG;17HITUEUMCIEUC;24SSANGCIEUC;17EONGCHIEUMCIEUC;27SSANGCIEUC
17HIEUCH-KHIEUKH;24HIEUH;19TUEUMCHIEUCH;17EONGCHIEUMCHIEUCH;16PHIEUPH-PIEUP;16KAPYEOUNPHIEUPH
16SSANGHIEUH;16YEORINHIEUH;16KIYEOK-TIKEUT;16NIEUN-SIOS;22CIEUC;22HIEUH;16TIKEUT-RIEUL;16FILLER
07JUNGSEONG FILLER;17A;18E;17YA;19E;17EO;18;17YEO;19;17O;17WA;19E;17OE;17YO;17U;17WEO;19;18I;17YU
17EU;17YI;17I;17A-O;19U;17YA-O;20YO;17EO-O;20U;20EU;17YEO-O;21U;17O-EO;20;19YE;19O;19U;17YO-YA;22E
21EO;20O;20I;17U-A;20E;19EO-EU;19YE;19U;17YU-A;20EO;21;20YEO;22;20U;20I;17EU-U;20EU;17YI-U;17I-A
19YA;19O;19U;19EU;19ARAEA;17ARAEA;22-EO;23U;23I;17SSANGARAEA;17A-EU;17YA-U;18EO-YA;17O-YA;21E
08ONGSEONG KIYEOK;17SSANGKIYEOK;17KIYEOK-SIOS;17NIEUN;22-CIEUC;23HIEUH;17TIKEUT;17RIEUL;22-KIYEOK
23MIEUM;23PIEUP;23SIOS;23THIEUTH;23PHIEUPH;23HIEUH;17MIEUM;17PIEUP;22-SIOS;17SIOS;18SANGSIOS
17IEUNG;17CIEUC;18HIEUCH;17KHIEUKH;17THIEUTH;17PHIEUPH;17HIEUH;17KIYEOK-RIEUL;24SIOS-KIYEOK
17NIEUN-KIYEOK;23TIKEUT;23SIOS;23PANSIOS;23THIEUTH;17TIKEUT-KIYEOK;24RIEUL;17RIEUL-KIYEOK-SIOS
23NIEUN;23TIKEUT;29-HIEUH;17SSANGRIEUL;17RIEUL-MIEUM-KIYEOK;29SIOS;23PIEUP-SIOS;29HIEUH
23KAPYEOUNPIEUP;23SSANGSIOS;23PANSIOS;23KHIEUKH;23YEORINHIEUH;17MIEUM-KIYEOK;23RIEUL;23PIEUP
23SIOS;24SANGSIOS;23PANSIOS;23CHIEUCH;23HIEUH;17KAPYEOUNMIEUM;17PIEUP-RIEUL;23PHIEUPH;23HIEUH
17KAPYEOUNPIEUP;17SIOS-KIYEOK;22TIKEUT;22RIEUL;22PIEUP;17PANSIOS;17IEUNG-KIYEOK;23SSANGKIYEOK
17SSANGIEUNG;17IEUNG-KHIEUKH;17YESIEUNG;25-SIOS;26PANSIOS;17PHIEUPH-PIEUP;17KAPYEOUNPHIEUPH
17HIEUH-NIEUN;23RIEUL;23MIEUM;23PIEUP;17YEORINHIEUH;17KIYEOK-NIEUN;24PIEUP;24CHIEUCH;24KHIEUKH
24HIEUH;17SSANGNIEUN;00ETHIOPIC SYLLABLE HA;19U;19I;19AA;19EE;20;19O;20A;18LA;19U;19I;19AA;19EE;20
19O;19WA;18HHA;20U;20I;20AA;20EE;21;20O;20WA;18MA;19U;19I;19AA;19EE;20;19O;19WA;18SZA;20U;20I;20AA
20EE;21;20O;20WA;18RA;19U;19I;19AA;19EE;20;19O;19WA;18SA;19U;19I;19AA;19EE;20;19O;19WA;19HA;20U
20I;20AA;20EE;21;20O;20WA;18QA;19U;19I;19AA;19EE;20;19O;20A;19WA;+124A;20I;20AA;20EE;21;+1250;19HA
20U;20I;20AA;20EE;21;20O;+1258;20WA;+125A;21I;21AA;21EE;22;+1260;18BA;19U;19I;19AA;19EE;20;19O
19WA;18VA;19U;19I;19AA;19EE;20;19O;19WA;18TA;19U;19I;19AA;19EE;20;19O;19WA;18CA;19U;19I;19AA;19EE
20;19O;19WA;18XA;19U;19I;19AA;19EE;20;19O;20A;19WA;+128A;20I;20AA;20EE;21;+1290;18NA;19U;19I;19AA
19EE;20;19O;19WA;19YA;20U;20I;20AA;20EE;21;20O;20WA;18GLOTTAL A;26U;26I;26AA;26EE;27;26O;26WA;18KA
19U;19I;19AA;19EE;20;19O;20A;19WA;+12B2;20I;20AA;20EE;21;+12B8;19XA;20U;20I;20AA;20EE;21;20O;+12C0
20WA;+12C2;21I;21AA;21EE;22;+12C8;18WA;19U;19I;19AA;19EE;20;19O;20A;18PHARYNGEAL A;29U;29I;29AA
29EE;30;29O;+12D8;18ZA;19U;19I;19AA;19EE;20;19O;19WA;19HA;20U;20I;20AA;20EE;21;20O;20WA;18YA;19U
19I;19AA;19EE;20;19O;20A;18DA;19U;19I;19AA;19EE;20;19O;19WA;19DA;20U;20I;20AA;20EE;21;20O;20WA
18JA;19U;19I;19AA;19EE;20;19O;19WA;18GA;19U;19I;19AA;19EE;20;19O;20A;19WA;+1312;20I;20AA;20EE;21
+1318;19GA;20U;20I;20AA;20EE;21;20O;20WAA;18THA;20U;20I;20AA;20EE;21;20O;20WA;18CHA;20U;20I;20AA
20EE;21;20O;20WA;18PHA;20U;20I;20AA;20EE;21;20O;20WA;18TSA;20U;20I;20AA;20EE;21;20O;20WA;19ZA;20U
20I;20AA;20EE;21;20O;21A;18FA;19U;19I;19AA;19EE;20;19O;19WA;18PA;19U;19I;19AA;19EE;20;19O;19WA
18RYA;18MYA;18FYA;+135D;09COMBINING GEMINATION AND VOWEL LENGTH MARK;19VOWEL LENGTH MARK
19GEMINATION MARK;09SECTION MARK;09WORDSPACE;09FULL STOP;09COMMA;09SEMICOLON;09COLON
09PREFACE COLON;09QUESTION MARK;09PARAGRAPH SEPARATOR;09DIGIT ONE;15TWO;16HREE;15FOUR;16IVE;15SIX
16EVEN;15EIGHT;15NINE;09NUMBER TEN;17WENTY;17HIRTY;16FORTY;17IFTY;16SIXTY;17EVENTY;16EIGHTY
16NINETY;16HUNDRED;16TEN THOUSAND;+1380;09SYLLABLE SEBATBEIT MWA;18MWI;20EE;21;18SEBATBEIT BWA
18BWI;20EE;21;18SEBATBEIT FWA;18FWI;20EE;21;18SEBATBEIT PWA;18PWI;20EE;21;09TONAL MARK YIZET
20DERET;20RIKRIK;20SHORT RIKRIK;20DIFAT;20KENAT;20CHIRET;20HIDET;20DERET-HIDET;20KURT;+13A0
00CHEROKEE LETTER A;16E;16I;16O"

end EachSubject.Text.CharacterName

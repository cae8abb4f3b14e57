/-!
# Names of characters

The names of the characters, other than those that are made by a rule: of the syllables of Hangul,
and of the characters that are named by their number.
-/

namespace MapStyle.Text

/-- The names as a pattern: parentheses and bars for a choice, a tilde for all numbers between two.
The ends of lines mean nothing. -/
def characterNames : String :=
  "ABACUS|AC CURRENT|ACCORDION|(ACCOUNT|CARE|ORIGIN(AL)) OF|ACK|ACKNOWLEDGE|(ACTIVATE|
INHIBIT) (ARABIC FORM SHAPING|SYMMETRIC SWAPPING)|ACUTE (ACCENT|ANGLE)|ADDRESSED TO THE SUBJECT|
ADHESIVE BANDAGE|ADI SHAKTI|ADLAM ((ALIF|VOWEL) LENGTHENER|(CAPITAL|SMALL) LETTER (ALIF|BA|BHE|CHI|
DAALI|DHA|E|FA|GA|GBE|HA|I|JIIM|KAF|KHA|KPO|LAAM|MIIM|NHA|NUN|NYA|O|PE|QAAF|RA|SHA|SINNYIIYHE|TU|U|
VA|WAW|YA|YHE|ZAL)|(CONSONANT|GEMINATE CONSONANT) MODIFIER|DIGIT (EIGHT|FIVE|FOUR|NINE|ONE|SEVEN|
SIX|THREE|TWO|ZERO)|(GEMINATION|NASALIZATION) MARK|HAMZA|INITIAL (EXCLAMATION|QUESTION) MARK|
NUKTA)|ADMETOS|ADMISSION TICKETS|ADULT|AEGEAN (CHECK MARK|(DRY|LIQUID) MEASURE FIRST SUBUNIT|
MEASURE (SECOND|THIRD) SUBUNIT|NUMBER ((EIGHT|FIVE|FOUR|NINE|ONE|SEVEN|SIX|THREE|TWO)( (HUNDRED|
THOUSAND)|)|(EIGHTY|FIFTY|FORTY|NINETY|SEVENTY|SIXTY|TEN|THIRTY|TWENTY)( THOUSAND|))|
WEIGHT (BASE UNIT|(FIRST|FOURTH|SECOND|THIRD) SUBUNIT)|WORD SEPARATOR (DOT|LINE))|AERIAL TRAMWAY|
(AFGHANI|ANGSTROM|AUSTRAL|BIOHAZARD|BITCOIN|CAUTION|CEDI|CENT|CLAPPING HANDS|COPYRIGHT|CRUZEIRO|
DIAMETER|DOLLAR|DONG|DRACHMA|DRIVE SLOW|FACSIMILE|FEMALE|FISTED HAND|GERMAN PENNY|GUARANI|HRYVNIA|
I LOVE YOU HAND|INDIAN RUPEE|INTERLOCKED FEMALE AND MALE|KELVIN|KIP|LARI|LIMITED LIABILITY|LIRA|
LIVRE TOURNOIS|MANAT|MICRO|MILL|NAIRA|NOMISMA|NORDIC MARK|NUMERO|OCTAGONAL|OHM|OK HAND|OUNCE|
PARTNERSHIP|PERCENT|PERMANENT PAPER|PESETA|PESO|PILCROW|POUND|PROHIBITED|RADIOACTIVE|REGISTERED|
RIAL|RUBLE|RUPEE|SECTION|SOM|SPESMILO|TENGE|TRADE MARK|TUGRIK|TURKISH LIRA|UNCERTAINTY|WARNING|WON|
YEN) SIGN|AHOM (CONSONANT SIGN MEDIAL (LA|LIGATING RA|RA)|DIGIT (EIGHT|FIVE|FOUR|NINE|ONE|SEVEN|
SIX|THREE|TWO|ZERO)|LETTER (A|ALTERNATE (BA|GA|TA)|BA|BHA|CA|CHA|DA|DDA|DDHA|DHA|GA|GHA|HA|JA|JHA|
KA|KHA|LA|LLA|MA|NA|NGA|NNA|NYA|PA|PHA|RA|SA|TA|THA|TTA|TTHA)|NUMBER (TEN|TWENTY)|SIGN (KILLER|
RULAI|SECTION|SMALL SECTION)|SYMBOL VI|VOWEL SIGN (A|AA|AI|AM|AW|E|I|II|O|U|UU))|
AIRPLANE( (ARRIVING|DEPARTURE)|)|AKTIESELSKAB|(ALARM|MANTELPIECE|TIMER) CLOCK|
ALCHEMICAL( (SYMBOL( (FOR( (AIR|ALEMBIC|(ALKALI|DISSOLVE|REALGAR|ROCK SALT|STRATUM SUPER STRATUM|
TARTAR|VITRIOL)(-2|)|ALUM|AMALGAM|(ANTIMONY|BISMUTH|LEAD|TIN) ORE|AQUA (REGIA|VITAE)(-2|)|
AQUAFORTIS|ARSENIC|ASHES|AURIPIGMENT|BATH OF (MARY|VAPOURS)|(BLACK|PHILOSOPHERS) SULFUR|(BORAX|
MERCURY SUBLIMATE)(-(2|3)|)|BRICK|CADUCEUS|CALX|CAPUT MORTUUM|CINNABAR|COPPER (ANTIMONIATE|ORE)|
CROCUS OF (COPPER(-2|)|IRON)|CRUCIBLE(-(2~5)|)|DAY-NIGHT|DISTILL|EARTH|FIRE|GOLD|GUM|HALF (DRAM|
OUNCE)|HORSE DUNG|HOUR|IRON( ORE(-2|)|-COPPER ORE)|LODESTONE|MARCASITE|MONTH|NIGHT|NITRE|OIL|
POT ASHES|POWDER|POWDERED BRICK|PRECIPITATE|PURIFY|PUTREFACTION|QUICK LIME|QUINTESSENCE|
REGULUS( OF (ANTIMONY(-2|)|IRON)|-(2~4)|)|RETORT|SAL-AMMONIAC|SALT( OF (ANTIMONY|
COPPER ANTIMONIATE)|)|SCEPTER OF JOVE|SILVER|SOAP|SPIRIT|STARRED TRIDENT|SUBLIMATE OF (ANTIMONY|
COPPER|SALT OF (ANTIMONY|COPPER))|SUBLIMATION|SULFUR|TINCTURE|TRIDENT|TUTTY|URINE|VERDIGRIS|
VINEGAR( OF ANTIMONY|-(2|3)|)|WATER|WAX))))))|(ALEF|ALTERNATIVE KEY|ANGER|ASCIA|ATOM|BET|BLANK|
BOYS|CENTRE LINE|CLEAR SCREEN|COLLISION|COMPOSITION|CONTINUOUS UNDERLINE|COPYLEFT|DALET|
DECREASE FONT SIZE|DISCONTINUOUS UNDERLINE|DIVORCE|DO NOT LITTER|E-MAIL|EJECT|EMPHASIS|ENTER|
ESTIMATED|FARSI|GIMEL|GIRLS|HELLSCHREIBER PAUSE|HELM|HUNDRED POINTS|HYSTERESIS|INCREASE FONT SIZE|
INSERTION|KOREAN STANDARD|L B BAR|LINK|MARRIAGE|MASK WORK|MENS|MONOSTABLE|OBSERVER EYE|OM|
PARTIALLY-RECYCLED PAPER|PASSED|PEACE|POTABLE WATER|PRINT SCREEN|PUT LITTER IN ITS PLACE|
RECYCLED PAPER|SEPARATED|SMOKING|SOFTWARE-FUNCTION|SPLASHING SWEAT|UNDO|UNITED|UNIVERSAL RECYCLING|
UNMARRIED PARTNERSHIP|WHEELCHAIR|WOMENS) SYMBOL|ALEMBIC|ALERT|ALIEN MONSTER|ALL (AROUND-PROFILE|
EQUAL TO)|ALM|ALMOST EQUAL (OR EQUAL TO|TO( WITH CIRCUMFLEX ACCENT|))|
ALTERNATE ONE-WAY LEFT WAY TRAFFIC|AMALGAMATION OR COPRODUCT|AMBULANCE|(AMERICAN|RUGBY) FOOTBALL|
AMPERSAND|AMPHORA|ANATOLIAN( (HIEROGLYPH( (A(001~009|011~025|027~038|040|042~044|047~065|067~096|
099|103|106|108|109|111~114|116~124|126~134|136~201|203~206|208|210~214|217~226|228~266|268~288|
290~293|295~298|300~308|310~328|330|331|333~335|337~358|360~363|365~367|369|370|372~380|382|384|
385|387~392|394~409|411~449|451~456|458~497|501~530|(010|026|039|041|045|097|098|100~102|115|125|
135|207|209|215|216|227|267|289|294|299|309|329|359|364|368|371|381|386|450|457)(A|)|(046|105|110|
202)(A|B|)|(066|104|107|336)(A|B|C|)|332(A|B|C)|383( RA OR RI|A)|393 EIGHT|410( BEGIN|
A END) LOGOGRAM MARK)))))|(ANATOMICAL|BEATING|BROWN|COUPLE WITH|FLORAL|GROWING|PURPLE|SPARKLING|
YELLOW) HEART|ANCHOR|AND WITH DOT|ANGLE( WITH (S INSIDE|UNDERBAR)|)|(ANGRY|ANGUISHED|ASTONISHED|
BEAR|CLOWN|CONFOUNDED|CONFUSED|DISGUISED|DROOLING|EXPRESSIONLESS|FEARFUL|FLUSHED|FOX|FREEZING|FROG|
GIRAFFE|GRIMACING|HAMSTER|HUGGING|HUSHED|LION|LOUDLY CRYING|LYING|MELTING|NAUSEATED|NERD|
OVERHEATED|PANDA|PENSIVE|PERSEVERING|RELIEVED|ROBOT|SALUTING|SLEEPY|SMIRKING|SNEEZING|THINKING|
TIRED|UNAMUSED|UNICORN|UPSIDE-DOWN|WINKING|WOLF|WORRIED|YAWNING|ZEBRA|ZIPPER-MOUTH) FACE|ANKH|ANT|
ANTENNA WITH BARS|ANTICLOCKWISE ((CLOSED|GAPPED|OPEN) CIRCLE ARROW|CONTOUR INTEGRAL|
DOWNWARDS AND UPWARDS OPEN CIRCLE ARROWS|INTEGRATION|TOP SEMICIRCLE ARROW|TRIANGLE-HEADED ((BOTTOM|
LEFT|RIGHT|TOP) U-SHAPED ARROW|OPEN CIRCLE ARROW))|APC|APL FUNCTIONAL SYMBOL ((ALPHA|IOTA|
OMEGA)( UNDERBAR|)|(BACKSLASH|COMMA|SLASH) BAR|CIRCLE (BACKSLASH|DIAERESIS|JOT|STAR|STILE|
UNDERBAR)|DEL (DIAERESIS|STILE|TILDE)|DELTA (STILE|UNDERBAR)|(DIAMOND|EPSILON|SEMICOLON) UNDERBAR|
DOWN (CARET TILDE|SHOE STILE|TACK (JOT|UNDERBAR))|(DOWNWARDS|LEFTWARDS|RIGHTWARDS|UPWARDS) VANE|
(GREATER-THAN|STAR|TILDE) DIAERESIS|I-BEAM|JOT (DIAERESIS|UNDERBAR)|LEFT SHOE STILE|
QUAD( (BACKSLASH|CIRCLE|COLON|DEL|DELTA|DIAMOND|DIVIDE|(DOWN|UP) CARET|(DOWNWARDS|LEFTWARDS|
RIGHTWARDS|UPWARDS) ARROW|EQUAL|(GREATER|LESS)-THAN|JOT|NOT EQUAL|QUESTION|SLASH)|)|QUOTE (QUAD|
UNDERBAR)|RHO|SQUISH QUAD|STILE TILDE|UP (CARET TILDE|SHOE JOT|TACK (DIAERESIS|JOT|OVERBAR))|
ZILDE)|APOLLON|APOSTROPHE|(APPLICATION PROGRAM|OPERATING SYSTEM) COMMAND|APPROACHES THE LIMIT|
APPROXIMATELY (BUT NOT ACTUALLY EQUAL TO|EQUAL (OR EQUAL TO|TO( OR THE IMAGE OF|)))|AQUARIUS|
ARABIC( ((BASELINE|RAISED) ROUND DOT|COMMA|CURLY (DAMMA|DAMMATAN|FATHA|FATHATAN|KASRA|KASRATAN)|
DAMMA( ((ISOLATED|MEDIAL) FORM|WITH DOT)|)|(DAMMATAN|FATHATAN|KASRATAN)( ISOLATED FORM|)|(DATE|
DECIMAL|THOUSANDS) SEPARATOR|DISPUTED END OF AYAH|DOUBLE RIGHT ARROWHEAD ABOVE( WITH DOT|)|
(DOUBLED|HALF MADDA OVER) MADDA|EMPTY CENTRE (HIGH|LOW) STOP|END OF (AYAH|TEXT MARK)|
FATHA( ((ISOLATED|MEDIAL) FORM|WITH (DOT ABOVE|RING|TWO DOTS))|)|FIVE POINTED STAR|FOOTNOTE MARKER|
FULL STOP|(HAMZA|LEFT ARROWHEAD) (ABOVE|BELOW)|(INVERTED|REVERSED) DAMMA|KASRA( ((ISOLATED|
MEDIAL) FORM|WITH DOT BELOW)|)|LARGE (CIRCLE BELOW|ROUND DOT (ABOVE|BELOW|INSIDE CIRCLE BELOW))|
LETTER (AE|AFRICAN (FEH|NOON|QAF( WITH THREE DOTS ABOVE|))|AIN( ((FINAL|INITIAL|ISOLATED|
MEDIAL) FORM|WITH (THREE DOTS (ABOVE|BELOW|POINTING DOWNWARDS ABOVE)|TWO DOTS (ABOVE|
VERTICALLY ABOVE)))|)|ALEF( ((FINAL|ISOLATED) FORM|(MAKSURA|WASLA)( (FINAL|ISOLATED) FORM|)|
WITH (ATTACHED ((BOTTOM RIGHT KASRA|TOP RIGHT FATHA)( AND (DOT ABOVE|LEFT RING)|)|FATHA|KASRA|
(LEFT|RIGHT) (HAMZA|ROUND DOT)|ROUND DOT (ABOVE|BELOW))|DOT ABOVE|
EXTENDED ARABIC-INDIC DIGIT (THREE|TWO) ABOVE|HAMZA (ABOVE|BELOW)( (FINAL|ISOLATED) FORM|)|
LEFT MIDDLE STROKE|MADDA ABOVE( (FINAL|ISOLATED) FORM|)|RIGHT MIDDLE STROKE( AND (DOT ABOVE|
LEFT RING)|)|WAVY HAMZA (ABOVE|BELOW)))|)|(BEEH|BEHEH|DYEH|E|GUEH|KHAH|NG|NGOEH|NYEH|PEHEH|RNOON|
TCHEHEH|TEHEH|THEH|TTEHEH|VEH|ZAH)( (FINAL|INITIAL|ISOLATED|MEDIAL) FORM|)|BEH( ((FINAL|INITIAL|
ISOLATED|MEDIAL) FORM|WITH ((DOT BELOW AND THREE DOTS|HAMZA|TWO DOTS BELOW AND DOT) ABOVE|
INVERTED SMALL V BELOW|SMALL (MEEM ABOVE|V( BELOW|))|THREE DOTS (HORIZONTALLY BELOW|
POINTING UPWARDS BELOW( AND TWO DOTS ABOVE|))))|)|(DAD|SHEEN)( ((FINAL|INITIAL|ISOLATED|
MEDIAL) FORM|WITH DOT BELOW)|)|(DAHAL|DDAHAL|DDAL|DUL|JEH|OE|RREH|THAL|VE|YU)( (FINAL|
ISOLATED) FORM|)|DAL( ((FINAL|ISOLATED) FORM|WITH (DOT BELOW( AND SMALL TAH|)|FOUR DOTS ABOVE|
INVERTED (SMALL V BELOW|V)|RING|THREE DOTS (ABOVE DOWNWARDS|BELOW)|
TWO DOTS VERTICALLY BELOW AND SMALL TAH))|)|DOTLESS (BEH|FEH|QAF)|FARSI YEH( ((FINAL|INITIAL|
ISOLATED|MEDIAL) FORM|WITH (EXTENDED ARABIC-INDIC DIGIT (FOUR BELOW|(THREE|TWO) ABOVE)|INVERTED V|
(THREE|TWO) DOTS ABOVE))|)|FEH( ((FINAL|INITIAL|ISOLATED|MEDIAL) FORM|
WITH (DOT (BELOW( AND THREE DOTS ABOVE|)|MOVED BELOW)|THREE DOTS (BELOW|POINTING UPWARDS BELOW)|
TWO DOTS BELOW))|)|GAF( ((FINAL|INITIAL|ISOLATED|MEDIAL) FORM|WITH (INVERTED STROKE|RING|
THREE DOTS ABOVE|TWO DOTS BELOW))|)|GHAIN( ((FINAL|INITIAL|ISOLATED|MEDIAL) FORM|WITH (DOT BELOW|
THREE DOTS ABOVE))|)|GRAF|HAH( ((FINAL|INITIAL|ISOLATED|MEDIAL) FORM|
WITH ((EXTENDED ARABIC-INDIC DIGIT FOUR|INVERTED SMALL V) BELOW|HAMZA ABOVE|
SMALL ARABIC LETTER TAH (ABOVE|AND TWO DOTS|BELOW)|THREE DOTS (ABOVE|POINTING UPWARDS BELOW)|
TWO DOTS (ABOVE|VERTICAL ABOVE)))|)|HAMZA( ISOLATED FORM|)|HEH( (DOACHASHMEE( (FINAL|INITIAL|
ISOLATED|MEDIAL) FORM|)|(FINAL|INITIAL|ISOLATED|MEDIAL) FORM|GOAL( ((FINAL|INITIAL|ISOLATED|
MEDIAL) FORM|WITH HAMZA ABOVE)|)|WITH (INVERTED V|YEH ABOVE( (FINAL|ISOLATED) FORM|)))|)|
HIGH HAMZA( (ALEF|WAW|YEH)|)|JEEM( ((FINAL|INITIAL|ISOLATED|MEDIAL) FORM|WITH (THREE DOTS (ABOVE|
BELOW)|TWO DOTS ABOVE))|)|KAF( ((FINAL|INITIAL|ISOLATED|MEDIAL) FORM|WITH (DOT (ABOVE|BELOW)|RING|
THREE DOTS BELOW|TWO DOTS ABOVE))|)|(KASHMIRI|ROHINGYA|THIN) YEH|KEHEH( ((FINAL|INITIAL|ISOLATED|
MEDIAL) FORM|WITH (DOT ABOVE|SMALL V|THREE DOTS (ABOVE|BELOW|POINTING UPWARDS BELOW)|
TWO DOTS (ABOVE|VERTICALLY BELOW)))|)|KIRGHIZ (OE|YU)( (FINAL|ISOLATED) FORM|)|LAM( ((FINAL|
INITIAL|ISOLATED|MEDIAL) FORM|WITH (BAR|DOT ABOVE|DOUBLE BAR|SMALL (ARABIC LETTER TAH ABOVE|V)|
THREE DOTS (ABOVE|BELOW)))|)|(LOW|SUPERSCRIPT) ALEF|MARK|MEEM( ((FINAL|INITIAL|ISOLATED|
MEDIAL) FORM|WITH (DOT (ABOVE|BELOW)|THREE DOTS ABOVE))|)|NOON( ((FINAL|INITIAL|ISOLATED|
MEDIAL) FORM|GHUNNA( (FINAL|ISOLATED) FORM|)|WITH ((DOT|TWO DOTS) BELOW|INVERTED SMALL V|RING|
SMALL (TAH|V)|THREE DOTS ABOVE))|)|PEH( ((FINAL|INITIAL|ISOLATED|MEDIAL) FORM|
WITH SMALL (MEEM ABOVE|V))|)|QAF( ((FINAL|INITIAL|ISOLATED|MEDIAL) FORM|WITH (DOT (ABOVE|
BELOW( AND NO DOTS ABOVE|))|THREE DOTS ABOVE))|)|REH( ((FINAL|ISOLATED) FORM|
WITH (DOT BELOW( AND DOT ABOVE|)|(FOUR DOTS|HAMZA) ABOVE|INVERTED V|LOOP|RING|
SMALL (ARABIC LETTER TAH AND TWO DOTS|NOON ABOVE|V( BELOW|))|STROKE|TWO DOTS (ABOVE|
VERTICALLY ABOVE)))|)|SAD( ((FINAL|INITIAL|ISOLATED|MEDIAL) FORM|WITH (THREE DOTS (ABOVE|BELOW)|
TWO DOTS BELOW))|)|SEEN( ((FINAL|INITIAL|ISOLATED|MEDIAL) FORM|WITH ((DOT BELOW AND DOT|
EXTENDED ARABIC-INDIC DIGIT FOUR|FOUR DOTS|TWO DOTS VERTICALLY) ABOVE|INVERTED V|
SMALL ARABIC LETTER TAH AND TWO DOTS|THREE DOTS BELOW( AND THREE DOTS ABOVE|)))|)|STRAIGHT WAW|
SWASH KAF|TAH( ((FINAL|INITIAL|ISOLATED|MEDIAL) FORM|WITH (DOT BELOW|THREE DOTS (ABOVE|BELOW)|
TWO DOTS ABOVE))|)|TCHEH( ((FINAL|INITIAL|ISOLATED|MEDIAL) FORM|WITH (DOT ABOVE|SMALL V))|)|
TEH( ((FINAL|INITIAL|ISOLATED|MEDIAL) FORM|MARBUTA( ((FINAL|ISOLATED) FORM|GOAL)|)|WITH (RING|
SMALL (TEH ABOVE|V)|THREE DOTS ABOVE DOWNWARDS))|)|TTEH( ((FINAL|INITIAL|ISOLATED|MEDIAL) FORM|
WITH SMALL V)|)|U( ((FINAL|ISOLATED) FORM|WITH HAMZA ABOVE( ISOLATED FORM|))|)|
UIGHUR KAZAKH KIRGHIZ ALEF MAKSURA (INITIAL|MEDIAL) FORM|WAW( ((FINAL|ISOLATED) FORM|
WITH (DOT (ABOVE|WITHIN)|EXTENDED ARABIC-INDIC DIGIT (THREE|TWO) ABOVE|HAMZA ABOVE( (FINAL|
ISOLATED) FORM|)|RING|TWO DOTS ABOVE))|)|YEH( (BARREE( ((FINAL|ISOLATED) FORM|
WITH (EXTENDED ARABIC-INDIC DIGIT (THREE|TWO) ABOVE|HAMZA ABOVE( (FINAL|ISOLATED) FORM|)))|)|
(FINAL|INITIAL|ISOLATED|MEDIAL) FORM|WITH (HAMZA ABOVE( (FINAL|INITIAL|ISOLATED|MEDIAL) FORM|)|
SMALL V|TAIL|THREE DOTS BELOW|TWO DOTS BELOW AND (DOT|HAMZA|SMALL NOON) ABOVE))|)|ZAIN( ((FINAL|
ISOLATED) FORM|WITH INVERTED V ABOVE)|))|LIGATURE (AIN WITH ((ALEF MAKSURA|YEH) (FINAL|
ISOLATED) FORM|JEEM ((INITIAL|ISOLATED) FORM|WITH MEEM (FINAL|INITIAL) FORM)|MEEM ((INITIAL|
ISOLATED) FORM|WITH ((ALEF MAKSURA|YEH) FINAL FORM|MEEM (FINAL|INITIAL) FORM)))|(AKBAR|ALAYHE|
ALLAH|MOHAMMAD|QALA USED AS KORANIC STOP SIGN|RASOUL|REH WITH SUPERSCRIPT ALEF|SALAM|
THAL WITH SUPERSCRIPT ALEF|WASALLAM) ISOLATED FORM|(ALAYHAA|ALAYHIM|ALAYHIMAA) AS-SALAAM|
ALAYHI AS-(SALAAM|SALAATU WAS-SALAAM)|ALEF (MAKSURA WITH SUPERSCRIPT ALEF|WITH FATHATAN) (FINAL|
ISOLATED) FORM|AZZA WA JALL|BEH WITH ((ALEF MAKSURA|YEH) (FINAL|ISOLATED) FORM|(HAH|KHAH) (INITIAL|
ISOLATED|WITH YEH FINAL) FORM|HEH (INITIAL|MEDIAL) FORM|JEEM (INITIAL|ISOLATED) FORM|MEEM (FINAL|
INITIAL|ISOLATED|MEDIAL) FORM|(NOON|REH|ZAIN) FINAL FORM)|BISMILLAH AR-RAHMAN AR-RAHEEM|
DAD WITH ((ALEF MAKSURA|REH|YEH) (FINAL|ISOLATED) FORM|HAH ((INITIAL|ISOLATED) FORM|
WITH (ALEF MAKSURA|YEH) FINAL FORM)|(JEEM|MEEM) (INITIAL|ISOLATED) FORM|KHAH ((INITIAL|
ISOLATED) FORM|WITH MEEM (FINAL|INITIAL) FORM))|FEH WITH ((ALEF MAKSURA|YEH) (FINAL|ISOLATED) FORM|
(HAH|JEEM) (INITIAL|ISOLATED) FORM|KHAH ((INITIAL|ISOLATED) FORM|WITH MEEM (FINAL|INITIAL) FORM)|
MEEM (INITIAL|ISOLATED|WITH YEH FINAL) FORM)|GHAIN WITH ((ALEF MAKSURA|YEH) (FINAL|ISOLATED) FORM|
JEEM (INITIAL|ISOLATED) FORM|MEEM ((INITIAL|ISOLATED) FORM|WITH (ALEF MAKSURA|MEEM|
YEH) FINAL FORM))|HAH WITH ((ALEF MAKSURA|YEH) (FINAL|ISOLATED) FORM|JEEM (INITIAL|ISOLATED|
WITH YEH FINAL) FORM|MEEM ((INITIAL|ISOLATED) FORM|WITH (ALEF MAKSURA|YEH) FINAL FORM))|
HEH WITH ((ALEF MAKSURA|YEH) ISOLATED FORM|JEEM (INITIAL|ISOLATED) FORM|MEEM ((INITIAL|
ISOLATED) FORM|WITH (JEEM|MEEM) INITIAL FORM)|SUPERSCRIPT ALEF INITIAL FORM)|JALLAJALALOUHOU|
JEEM WITH ((ALEF MAKSURA|YEH) (FINAL|ISOLATED) FORM|HAH ((INITIAL|ISOLATED) FORM|
WITH (ALEF MAKSURA|YEH) FINAL FORM)|MEEM ((INITIAL|ISOLATED) FORM|WITH ((ALEF MAKSURA|
YEH) FINAL FORM|HAH (FINAL|INITIAL) FORM)))|KAF WITH (ALEF ((FINAL|ISOLATED) FORM|MAKSURA (FINAL|
ISOLATED) FORM)|(HAH|JEEM|KHAH) (INITIAL|ISOLATED) FORM|LAM (FINAL|INITIAL|ISOLATED|MEDIAL) FORM|
MEEM ((FINAL|INITIAL|ISOLATED|MEDIAL) FORM|WITH (MEEM (FINAL|INITIAL) FORM|YEH FINAL FORM))|
YEH (FINAL|ISOLATED) FORM)|KHAH WITH ((ALEF MAKSURA|YEH) (FINAL|ISOLATED) FORM|HAH ISOLATED FORM|
(JEEM|MEEM) (INITIAL|ISOLATED) FORM)|LAM WITH (ALEF ((FINAL|ISOLATED) FORM|MAKSURA (FINAL|
ISOLATED) FORM|WITH (HAMZA (ABOVE|BELOW) (FINAL|ISOLATED) FORM|MADDA ABOVE (FINAL|ISOLATED) FORM))|
HAH ((INITIAL|ISOLATED) FORM|WITH ((ALEF MAKSURA|YEH) FINAL FORM|MEEM (FINAL|INITIAL) FORM))|
HEH INITIAL FORM|JEEM ((INITIAL|ISOLATED) FORM|WITH ((JEEM|MEEM) (FINAL|INITIAL) FORM|
YEH FINAL FORM))|KHAH ((INITIAL|ISOLATED) FORM|WITH MEEM (FINAL|INITIAL) FORM)|MEEM ((FINAL|
INITIAL|ISOLATED|MEDIAL) FORM|WITH (HAH (FINAL|INITIAL) FORM|YEH FINAL FORM))|YEH (FINAL|
ISOLATED) FORM)|MEEM WITH (ALEF (FINAL|MAKSURA ISOLATED) FORM|(HAH|KHAH) ((INITIAL|ISOLATED) FORM|
WITH ((JEEM|MEEM) INITIAL FORM|YEH FINAL FORM))|JEEM ((INITIAL|ISOLATED) FORM|WITH ((HAH|KHAH|
MEEM) INITIAL FORM|YEH FINAL FORM))|MEEM (FINAL|INITIAL|ISOLATED|WITH YEH FINAL) FORM|
YEH ISOLATED FORM)|NOON WITH ((ALEF MAKSURA|YEH) (FINAL|ISOLATED) FORM|HAH ((INITIAL|
ISOLATED) FORM|WITH ((ALEF MAKSURA|YEH) FINAL FORM|MEEM INITIAL FORM))|HEH (INITIAL|MEDIAL) FORM|
JEEM ((INITIAL|ISOLATED) FORM|WITH ((ALEF MAKSURA|YEH) FINAL FORM|(HAH|MEEM) (FINAL|
INITIAL) FORM))|KHAH (INITIAL|ISOLATED) FORM|MEEM ((FINAL|INITIAL|ISOLATED|MEDIAL) FORM|
WITH (ALEF MAKSURA|YEH) FINAL FORM)|(NOON|REH|ZAIN) FINAL FORM)|QAF WITH ((ALEF MAKSURA|
YEH) (FINAL|ISOLATED) FORM|HAH (INITIAL|ISOLATED) FORM|MEEM ((INITIAL|ISOLATED) FORM|
WITH (HAH (FINAL|INITIAL) FORM|(MEEM|YEH) FINAL FORM)))|QUDDISA SIRRAH|RADI ALLAAHU (ANH|ANHAA|
ANHUM|ANHUMAA|ANHUNNA)|(RAHIMAHU|RAHIMAHUM) ALLAAH|SAD WITH ((ALEF MAKSURA|REH|YEH) (FINAL|
ISOLATED) FORM|HAH ((INITIAL|ISOLATED) FORM|WITH (HAH (FINAL|INITIAL) FORM|YEH FINAL FORM))|
KHAH INITIAL FORM|MEEM ((INITIAL|ISOLATED) FORM|WITH MEEM (FINAL|INITIAL) FORM))|SALAAMUHU ALAYNAA|
SALLA (ISOLATED|USED AS KORANIC STOP SIGN ISOLATED) FORM|SALLALLAAHU ALAYHI WA-AALIH|
SALLALLAHOU ALAYHE WASALLAM|SALLALLAHU ALAYHI WAAALIHEE WA-SALLAM|SEEN WITH ((ALEF MAKSURA|REH|
YEH) (FINAL|ISOLATED) FORM|HAH (INITIAL|ISOLATED|MEDIAL|WITH JEEM INITIAL) FORM|HEH (INITIAL|
MEDIAL) FORM|JEEM ((INITIAL|ISOLATED|MEDIAL) FORM|WITH (ALEF MAKSURA FINAL|HAH INITIAL) FORM)|
KHAH ((INITIAL|ISOLATED|MEDIAL) FORM|WITH (ALEF MAKSURA|YEH) FINAL FORM)|MEEM ((INITIAL|ISOLATED|
MEDIAL) FORM|WITH ((HAH|MEEM) (FINAL|INITIAL) FORM|JEEM INITIAL FORM)))|SHADDA WITH ((DAMMA|FATHA|
KASRA) (ISOLATED|MEDIAL) FORM|(DAMMATAN|KASRATAN|SUPERSCRIPT ALEF) ISOLATED FORM)|
SHEEN WITH ((ALEF MAKSURA|REH|YEH) (FINAL|ISOLATED) FORM|HAH ((FINAL|INITIAL|ISOLATED|MEDIAL) FORM|
WITH (MEEM (FINAL|INITIAL) FORM|YEH FINAL FORM))|HEH (INITIAL|MEDIAL) FORM|JEEM (FINAL|INITIAL|
ISOLATED|MEDIAL|WITH YEH FINAL) FORM|KHAH (FINAL|INITIAL|ISOLATED|MEDIAL) FORM|MEEM ((FINAL|
INITIAL|ISOLATED|MEDIAL) FORM|WITH (KHAH|MEEM) (FINAL|INITIAL) FORM))|(SUBHAANAHU WA |
TABAARAKA WA-)TAAALAA|TAH WITH ((ALEF MAKSURA|YEH) (FINAL|ISOLATED) FORM|HAH (INITIAL|
ISOLATED) FORM|MEEM ((INITIAL|ISOLATED|MEDIAL) FORM|WITH (HAH (FINAL|INITIAL) FORM|(MEEM INITIAL|
YEH FINAL) FORM)))|TEH WITH ((ALEF MAKSURA|YEH) (FINAL|ISOLATED) FORM|HAH ((INITIAL|ISOLATED) FORM|
WITH (JEEM (FINAL|INITIAL) FORM|MEEM INITIAL FORM))|HEH (INITIAL|MEDIAL) FORM|(JEEM|
KHAH) ((INITIAL|ISOLATED) FORM|WITH ((ALEF MAKSURA|YEH) FINAL FORM|MEEM INITIAL FORM))|
MEEM ((FINAL|INITIAL|ISOLATED|MEDIAL) FORM|WITH (ALEF MAKSURA FINAL|HAH INITIAL|JEEM INITIAL|
KHAH INITIAL|YEH FINAL) FORM)|(NOON|REH|ZAIN) FINAL FORM)|THEH WITH ((ALEF MAKSURA|YEH) (FINAL|
ISOLATED) FORM|(HEH MEDIAL|JEEM ISOLATED|NOON FINAL|REH FINAL|ZAIN FINAL) FORM|MEEM (FINAL|INITIAL|
ISOLATED|MEDIAL) FORM)|UIGHUR KIRGHIZ YEH WITH HAMZA ABOVE WITH ALEF MAKSURA (FINAL|INITIAL|
ISOLATED) FORM|YEH WITH ((ALEF MAKSURA|YEH) (FINAL|ISOLATED) FORM|(HAH|JEEM) (INITIAL|ISOLATED|
WITH YEH FINAL) FORM|HAMZA ABOVE WITH ((AE|OE|U|WAW|YEH|YU) (FINAL|ISOLATED) FORM|ALEF ((FINAL|
ISOLATED) FORM|MAKSURA (FINAL|ISOLATED) FORM)|E (FINAL|INITIAL|ISOLATED) FORM|(HAH|JEEM) (INITIAL|
ISOLATED) FORM|HEH (INITIAL|MEDIAL) FORM|(KHAH INITIAL|NOON FINAL|REH FINAL|ZAIN FINAL) FORM|
MEEM (FINAL|INITIAL|ISOLATED|MEDIAL) FORM)|HEH (INITIAL|MEDIAL) FORM|KHAH (INITIAL|ISOLATED) FORM|
MEEM ((FINAL|INITIAL|ISOLATED|MEDIAL) FORM|WITH (MEEM (FINAL|INITIAL) FORM|YEH FINAL FORM))|(NOON|
REH|ZAIN) FINAL FORM)|ZAH WITH MEEM (INITIAL|ISOLATED|MEDIAL) FORM)|MADDA WAAJIB|(MADDAH|
PIASTRE MARK|POUND MARK) ABOVE|MARK (NOON|SIDEWAYS NOON) GHUNNA|MATHEMATICAL (AIN|ALEF|BEH|DAD|DAL|
DOTLESS (BEH|FEH|NOON|QAF)|DOUBLE-STRUCK (AIN|BEH|DAD|DAL|FEH|GHAIN|HAH|JEEM|KHAH|LAM|MEEM|NOON|
QAF|REH|SAD|SEEN|SHEEN|TAH|TEH|THAL|THEH|WAW|YEH|ZAH|ZAIN)|FEH|GHAIN|HAH|INITIAL (AIN|BEH|DAD|FEH|
GHAIN|HAH|HEH|JEEM|KAF|KHAH|LAM|MEEM|NOON|QAF|SAD|SEEN|SHEEN|TEH|THEH|YEH)|JEEM|KAF|KHAH|LAM|
LOOPED (AIN|ALEF|BEH|DAD|DAL|FEH|GHAIN|HAH|HEH|JEEM|KHAH|LAM|MEEM|NOON|QAF|REH|SAD|SEEN|SHEEN|TAH|
TEH|THAL|THEH|WAW|YEH|ZAH|ZAIN)|MEEM|NOON|OPERATOR (HAH WITH DAL|MEEM WITH HAH WITH TATWEEL)|QAF|
REH|SAD|SEEN|SHEEN|STRETCHED (AIN|BEH|DAD|DOTLESS (BEH|FEH)|FEH|GHAIN|HAH|HEH|JEEM|KAF|KHAH|MEEM|
NOON|QAF|SAD|SEEN|SHEEN|TAH|TEH|THEH|YEH|ZAH)|TAH|TAILED (AIN|DAD|DOTLESS (NOON|QAF)|GHAIN|HAH|
JEEM|KHAH|LAM|NOON|QAF|SAD|SEEN|SHEEN|YEH)|TEH|THAL|THEH|WAW|YEH|ZAH|ZAIN)|NUMBER (MARK ABOVE|
SIGN)|OPEN (DAMMATAN|FATHATAN|KASRATAN)|(PERCENT|POETIC VERSE) SIGN|PLACE OF SAJDAH|(QUESTION|
TRIPLE DOT PUNCTUATION) MARK|RAY|RIGHT ARROWHEAD (ABOVE( WITH DOT|)|BELOW)|
ROUNDED HIGH STOP WITH FILLED CENTRE|SEMICOLON|SHADDA( (ISOLATED|MEDIAL) FORM|)|
SIGN (ALAYHE ASSALLAM|MISRA|RADI ALLAHOU ANHU|RAHMATULLAH ALAYHE|SAFHA|
SALLALLAHOU ALAYHE WASSALLAM|SAMVAT|SANAH|SINDHI (AMPERSAND|POSTPOSITION MEN)|TAKHALLUS)|
SMALL (DAMMA|FARSI YEH|FATHA|HIGH (AIN|DOTLESS HEAD OF KHAH|FARSI YEH|FOOTNOTE MARKER|JEEM|
LAM ALEF|LIGATURE (ALEF WITH LAM WITH YEH|(QAF|SAD) WITH LAM WITH ALEF MAKSURA)|MADDA|
MEEM (INITIAL|ISOLATED) FORM|NOON( WITH KASRA|)|QAF|(ROUNDED|UPRIGHT RECTANGULAR) ZERO|SAD|SEEN|
SIGN SAFHA|TAH|THREE DOTS|WAW|WORD (AL-JUZ|AN-NISF|AR-RUB|AS-SAJDA|ATH-THALATHA|QIF|SAH|SAKTA|
WAQFA)|YEH( BARREE WITH TWO DOTS BELOW|)|ZAH|ZAIN)|KASRA|LOW (MEEM|NOON WITH KASRA|SEEN|WAW|
WORD (IMAALA|ISHMAAM|TASHEEL))|WAW|YEH)|START OF RUB EL HIZB|SUBSCRIPT ALEF|SUKUN( (BELOW|
(ISOLATED|MEDIAL) FORM)|)|SUPERSCRIPT ALEF MOKHASSAS|SYMBOL ((DOT|FOUR DOTS|SMALL TAH) (ABOVE|
BELOW)|DOUBLE VERTICAL BAR BELOW|RING|THREE DOTS (ABOVE|BELOW|POINTING DOWNWARDS (ABOVE|BELOW))|
TWO DOTS (ABOVE|BELOW|VERTICALLY (ABOVE|BELOW))|WASLA ABOVE)|TAIL FRAGMENT|
TATWEEL( WITH (FATHATAN ABOVE|OVERSTRUCK (HAMZA|WAW)|TWO DOTS BELOW)|)|TONE (LOOP|ONE DOT|
TWO DOTS) (ABOVE|BELOW)|(TURNED DAMMA|WAVY HAMZA) BELOW|VERTICAL TAIL|VOWEL SIGN (DOT BELOW|
(INVERTED SMALL|SMALL) V ABOVE)|ZWARAKAY)|-INDIC ((CUBE|FOURTH) ROOT|DIGIT (EIGHT|FIVE|FOUR|NINE|
ONE|SEVEN|SIX|THREE|TWO|ZERO)|PER (MILLE|TEN THOUSAND) SIGN))|ARC|ARIES|ARMENIAN ((ABBREVIATION|
EMPHASIS|EXCLAMATION|QUESTION) MARK|APOSTROPHE|CAPITAL LETTER (AYB|BEN|CA|CHA|CHEH|CO|DA|ECH|EH|ET|
FEH|GHAD|GIM|HO|INI|JA|JHEH|KEH|KEN|LIWN|MEN|NOW|OH|PEH|PIWR|RA|REH|SEH|SHA|TIWN|TO|VEW|VO|XEH|YI|
YIWN|ZA|ZHE)|COMMA|DRAM SIGN|FULL STOP|HYPHEN|MODIFIER LETTER LEFT HALF RING|SMALL (LETTER (AYB|
BEN|CA|CHA|CHEH|CO|DA|ECH|EH|ET|FEH|GHAD|GIM|HO|INI|JA|JHEH|KEH|KEN|LIWN|MEN|NOW|OH|PEH|PIWR|RA|
REH|SEH|SHA|TIWN|TO|TURNED AYB|VEW|VO|XEH|YI( WITH STROKE|)|YIWN|ZA|ZHE)|LIGATURE (ECH YIWN|
MEN (ECH|INI|NOW|XEH)|VEW NOW)))|ARROW POINTING (DOWNWARDS THEN CURVING (LEFTWARDS|RIGHTWARDS)|
RIGHTWARDS THEN CURVING (DOWNWARDS|SOUTH WEST|UPWARDS)|UPWARDS THEN NORTH WEST)|
ARROWHEAD-SHAPED POINTER|ARTICULATED LORRY|ARTIST PALETTE|(ASCENDING|DESCENDING) NODE|ASSERTION|
(ASTERISK|BULLET)( OPERATOR|)|ASTERISM|ASTRAEA|ASTRONOMICAL SYMBOL FOR URANUS|(ASYMPTOTICALLY|
DELTA|QUESTIONED) EQUAL TO|(ATHLETIC|FLAT|MANS) SHOE|AUBERGINE|AUTO RICKSHAW|(AUTOMATED TELLER|
SLOT) MACHINE|AUTOMOBILE|AVESTAN (ABBREVIATION MARK|LETTER (A|AA|AAN|AAO|AE|AEE|AN|AO|BE|BHE|CE|DE|
DHE|E|EE|FE|GE|GGE|GHE|HE|HME|I|II|JE|KE|LE|ME|NE|NGE|NGVE|NGYE|NNE|NYE|O|OO|PE|RE|SE|SHE|SHYE|
SSHE|TE|THE|TTE|U|UU|VE|XE|XVE|XYE|YE|YYE|ZE|ZHE))|AVOCADO|AXE|BABY( (ANGEL|BOTTLE|CHICK|SYMBOL)|)|
BACK( (OF ENVELOPE|WITH LEFTWARDS ARROW ABOVE)|-TILTED SHADOWED WHITE RIGHTWARDS ARROW)|
BACKSLANTED SOUTH ARROW WITH (HOOKED|HORIZONTAL) TAIL|BACKSPACE|BACON|(BACTRIAN|DROMEDARY) CAMEL|
BADGER|BADMINTON RACQUET AND SHUTTLECOCK|BAGEL|BAGGAGE CLAIM|BAGUETTE BREAD|BALINESE (ADEG ADEG|
CARIK (PAMUNGKAH|PAREREN|SIKI)|DIGIT (EIGHT|FIVE|FOUR|NINE|ONE|SEVEN|SIX|THREE|TWO|ZERO)|
LETTER (AIKARA|(AKARA|IKARA|OKARA|UKARA)( TEDUNG|)|ARCHAIC JNYA|(ASYURA|EF|KAF|KHOT|TZIR|VE|
ZAL) SASAK|BA( KEMBANG|)|CA( LACA|)|DA( (MADU|MURDA (ALPAPRANA|MAHAPRANA))|)|EKARA|GA( GORA|)|HA|
JA( JERA|)|KA( MAHAPRANA|)|LA( LENGA( TEDUNG|)|)|MA|NA( RAMBAT|)|NGA|NYA|PA( KAPAL|)|
RA( REPA( TEDUNG|)|)|SA( (SAGA|SAPA)|)|TA( (LATIK|MURDA MAHAPRANA|TAWA)|)|WA|YA)|
MUSICAL SYMBOL (COMBINING (BENDE|ENDEP|GONG|JEGOGAN|(KEMPLI|KEMPUL)( WITH JEGOGAN|)|TEGEH)|DAENG|
DAING|DANG( (GEDE|SURANG)|)|DENG|DEUNG|DING|DONG|DUNG|LEFT-HAND (CLOSED (PLAK|PLUK)|OPEN (PANG|
PING|PUNG))|RIGHT-HAND (CLOSED (TAK|TUK)|OPEN (DAG|DUG)))|(PAMADA|PANTI)( LANTANG|)|PAMENENG|
SIGN (BISAH|CECEK|REREKAN|SURANG|ULU (CANDRA|RICEM))|VOWEL SIGN ((LA LENGA|PEPET|RA REPA)( TEDUNG|
)|SUKU( ILUT|)|TALING( (REPA( TEDUNG|)|TEDUNG)|)|TEDUNG|ULU( SARI|))|WINDU)|BALL OF YARN|
BALLET SHOES|BALLOON(-SPOKED ASTERISK|)|BALLOT (BOLD SCRIPT X|BOX( WITH (BALLOT|BOLD (CHECK|
SCRIPT X)|CHECK|LIGHT X|SCRIPT X|X)|)|SCRIPT X|X)|BAMUM (COLON|COMBINING MARK (KOQNDON|TUKWENTIS)|
COMMA|FULL STOP|LETTER (A|EE|FAAMAE|FEE|FOM|FU|I|KA|KEN|KET|KEUX|KI|KO|KOGHOM|KOVUU|KPA|KU|KYEE|LA|
LEEEE|LI|LOQ|LU|M|MA|MBAA|MBEN|MEEEE|MEN|MI|MO|MU|NA|NDAA|NGA|NGGA|NGKWAEN|NI|NJAEM|NJEE|NJUAE|
NSHA|NTEE|NTUU|NU|NUAE|NYI|O|PA|PEE|PEUX|PHASE-(A (FIRI|GBIEE FON|GHEUAEGHEUAE|GHEUAERAE|KAFA|KAQ|
KET|KEUKEUTNDA|KPOQ|KUOQ|LAPAQ|LET KUT|LOMMAE|LU|LUAEP|MAEKEUP|MAEM|MAEMBGBIEE|MAEMKPEN|MAEMVEUX|
MAENYI|MAESI|MANSUAE|MAP PIEET|MBANYI|MBAQ|MEUNJOMNDEUQ|MGBASA|MON NGGEUAET|MOOMEUT|MOOMPUQ|
MVEUAENGAM|(NAA|NGKUE|NZA|TITA) MFON|NAQ|(NDA|PA) LEERAEWA|NDAANGGEUAET|NEN|NGANGU|NGGEN|
NGKUENZEUM|NIKA|NJAM|NKAARAE|NKINDI|NSHA|NSHIEE|NTAP( (MFAA|NTAA)|)|NTOQPEN|NYET|NYI|
NYIT MONGKEUAEQ|NZUN MEUT|PAAM|PAARAE|PAMSHAE|PASHAE|PET|PON (MFON|PA NJI) (PIPAEMBA|PIPAEMGBIEE)|
PUP|ROM|SEUNYAM|SHINDA PA NJI|SHIRAE|SHOQ NSHUT YUM|SHUENSHUET|SHUM|SISA|SONJAM|SOQ|SOT|SUU|TEUAEN|
TEUTEUWEN|TU MAEMBA|TUAEP|U YUQ NAE|UNKNOWN|VEE)|B (FEE|FEUX|GHEUGHEN|GHEUGHEUAEM|KAM|KEUAEM|
KEUPUQ|KEUYEUX|KIEEM|KIQ|LAANAE|LAM NSHUT NYAM|LET|(LOM|NYI) NTEUM|MA( (NJEUAENA|NJUQA)|)|
MBA MAELEE|MBAARAE|MBEURI|MBIT MBAAKET|MBUOQ|MEUQ|MEUT NGGEET|MFIYAQ|MFON TEUAEQ|MONTIEEN|NDU NJAA|
NGGAAM|NGGEU MBU|NGGUOQ( LARGE|)|NGKINDI MVOP|NGOM|NSEN|NSHUET|NTIEE SHEUOQ|NYAEMAE|PARUM|PEESHI|
PIT|PUNGAAM|SAKEUAE|SET TU|SHET NJAQ|SHEUAEQTU|SIEE|SUE|TAAM|TU (MAEMGBIEE|NSIEE)|VEUM|WUAET|
YAFU LEERAEWA|YEURAE)|C (BUNG|FUE|GBAYI|GHAP|GHARAE|KAA|KEN (FATIGUE|LAW)|KET|KEUKAQ|KEUM|KEUSEUX|
KEUSHEUAEP|KPARAQ|KUOP NKAARAE|KUT|LAM|LAP|LIQ|LU|MA (KEUAERI|NSIEE)|MAEMBA|MAESI|
MBAA (CABBAGE-TREE|PICKET)|MBANYI|MBEEKEET|MBERAE|MBEUM|MBEUX|MBI|MBIRIEEN|MBIT|MBUAEM|MBUE|
MGBASAQ|MIEE|MUAE|NANSANAQ|NAQ|NDAM|NDAP|NDEUAEREE|NDEUT|NDIDA|NDOMBU|NGAQ|NGGEN|NGGU|NGGUAEN NYAM|
NGGUEET|NGGUM|NGGUON|NGKAQ|NGKUE MAEMBA|NGOM|NJAEM|NJAM|NJEEEE|NJEUX|NJUEQ|NSA|NSEUAEN|NSHAQ|NSOM|
NSUN|NSUOT NGOM|NTAA|NTEN|NTEUNGBA|NTU MBIT|NYIR MKPARAQ MEUN|NZA|NZEUM|PEN|PIN|PIRIEEN|RU|SETFON|
SEUX|SHIQ|SHUEQ|SUAET|TAASHAE|TET|TEUTEUX|TITA YUE|TITUAEP|VEUAEPEN|VEUX|WANGKUOQ|WUP|YAA|YEUQ|
YU MUOMAE|YUM|YUWOQ)|D (FAA|FEUFEUAET|GHAA|GHEUAE|KET|KEUAETMEUN|KEUM|KEUOT MBUAE|KEUP|KU|KUN|KUOM|
KUQ|KWAET|KYEE|LEEEE|LET|LEUAEP|LEUM|LIEE|LOQ|LUM|M|MAENJET|MALEERI|MBAA( SEVEN|)|MBUO|MEEEE|MEUN|
MEUT|MFEUAE|MFEUT|MFIEE|MFO|MFON|MGBEUN|MGBIEE|MGBOFUM|MONI|MU|MVOP|NDAM|NDEE|NDEUX|NDON|NGGAAM|
NGGAAMAE|NGGAP|NGGEUX|NGGUOM|NGGWAEN|NGKAP|NGKEUAEQ|NGKEURI|NGKIEE|NGKUN|NGKYEE|NI|NJAP|NJEUAEM|
NJEUT|NJI|NJIEE|NJUEQ|NSHEE|NSHUT|NSIEEP|NSIEET|NSUM|NTEE|NTEUM|NTUU|NU|NYAM|NYET|NYI|NYUE|PAP|PEE|
PEUTAE|PIP|PUQ|PUUT|RAEM|REN (MUCH|OLD)|RII|SAP|SAQ|SEUAEQ|SHEE|SHEUAE|SHEUX|SHII|SHOQ|SHU|SOT|
SUAE|SUE|SUU|TAE|TEEEE|TEUAEN|TEUN|TEUT|TI|TOQ|TU|TUOT|WAP|WUAEN|YAEMMAE|YEN|YUOM|YUOP|YUWOQ)|E (A|
FA|FAQ|FEE|FOM|FU (CALL|I|REMEDY)|FUE|FUET|GBET|GBEUX|GHAAMAE|GHET|GHEUAE|GHEUN|GHEUX|GHOM|I|KET|
KEUAE|KEUX|KI|KO|KPEUX|KUET|KUOP|KUT|LAAM|LAP|LAQ|LEUAEM|LOM|LOON|LOOT|LOQ|LU|MA|MAE|MAEM|MAP|MAQ|
MBEE|MBEUM|MEN|MFEUQ|MGBA|MGBEN|MI|MIEE|MON|MUAE|MVI|NA|NAE|NDAA (MY HOUSE|SOFTNESS)|NDAP|NDIAQ|
NDIQ|NDUN|NGA|NGEUREUT|NGGEEEE|NGGEUAE|NGGEUAET|NGGUAESHAE NYAM|NGGUP|NGGURAE|NGKA|NGKAAMI|
NGKEUAEM|NGKEUX|NGKUM|NGKUP|NGOP|NGOQ|NGUAE|NGUAET|NJAEMLI|NJEE( EPOCH|)|NJEUX|NKOM|NSHIEE|NSHUE|
NSHUOP|NTAP|NTUM|NYI (BETWEEN|CLEAVER)|NZAQ|NZUQ|O|PA (PEOPLE|PLURAL)|PAA|PAAM|PEEM|PEUT|PEUX|PI|
PIEEQ|PIET|PO|POON|PU|PUAE|PUAQ|PUE|PUM|RAE|RAQ|REUX|RIMGBA|SAA|SEE|SET|SHEUAEQ|SHIQ|SHO|SHOQ|SOM|
SUAEN|TAA|TAAQ|TAEN NTEUM|TAM|TAQ|TEN|TEU|TEUAEQ|TOO|TOON|TOQ|TUAE|TUM|TUMAE|VEE|VEUAE|VOM|WEUX|
WUE|WUO|YAP|YEUAE|YEUAET|YEUM|YEUX|YIEE|YIT|YOQ (COVER|SWIMMING)|YUAEN|YUEQ|YUN|YUQ)|F (EE|FOM|KA|
KEN|KET|KO|KPA|KU|KYEE|LA|LI|LOQ|M|MA|MBAA|MBEN|MEEEE|MO|NDAA|NGGA|NGKWAEN|NI|NJAEM|NJUAE|NSHA|
NTEE|NU|NUAE|NYI|PEE|PEUX|PUAE|REE|REN|REUX|RIEE|RII|RU|SAMBA|SEUX|SHII|SHO|SHU|SI|SUU|TAA|TAE|TET|
U|VUEQ|WA|WUE|YA|YOQ))|PI|PUAE|PUE|RAE|REE|REN|REUX|RIEE|RII|RU|SAMBA|SEUX|SHEUX|SHII|SHO|SHU|SI|
SUU|TAA|TAE|TEN|TET|TI|U|WA|WUE|YA|YOQ|YUQ)|NJAEMLI|QUESTION MARK|SEMICOLON)|BANANA|BANJO|BANK|
BANKNOTE WITH (DOLLAR|EURO|POUND|YEN) SIGN|BAR (CHART|OF SOAP)|BARBER POLE|BASEBALL|BASKET|
BASKETBALL AND HOOP|BASSA VAH (COMBINING (HIGH( TONE|-LOW TONE)|LOW( TONE|-MID TONE)|MID TONE)|
FULL STOP|LETTER (A|BA|CE|DHII|DO|E|EE|ENNI|FA|GAH|GBU|HWAH|I|JO|KA|KPAH|MBE|O|OO|PA|SE|TO|U|UWU|
VU|WA|WADDA|YEIN|YIE|ZO))|BAT|BATAK (CONSONANT SIGN (H|NG)|LETTER (A|BA|CA|DA|GA|HA|I|JA|KARO BA|
LA|MA|MANDAILING (HA|NA|SA)|MBA|NA|NDA|NGA|NORTHERN TA|NYA|PA|PAKPAK WA|RA|SA|SIMALUNGUN (A|GA|HA|
LA|MA|PA|RA|SA|WA|YA)|SOUTHERN TA|U|WA|YA)|PANGOLAT|PANONGONAN|SIGN TOMPI|SYMBOL BINDU (JUDUL|
NA METEK|PANGOLAT|PINARBORAS)|VOWEL SIGN (E|EE|I|KARO (I|O)|O|PAKPAK E|U( FOR SIMALUNGUN SA|)))|
BATH|BATHTUB|BATTERY|BEACH WITH UMBRELLA|BEAMED (ASCENDING MUSICAL|DESCENDING MUSICAL|EIGHTH|
SIXTEENTH) NOTES|BEANS|(BEARDED|DEAF|KNEELING|STANDING) PERSON|BEAVER|BECAUSE|BED|BEER MUG|BEETLE|
BEL|BELL( (PEPPER|SYMBOL|WITH CANCELLATION STROKE)|)|(BELLHOP|RINGING) BELL|
BENGALI (ABBREVIATION SIGN|ANJI|(AU LENGTH|GANDA|SANDHI) MARK|CURRENCY (DENOMINATOR SIXTEEN|
NUMERATOR (FOUR|ONE( LESS THAN THE DENOMINATOR|)|THREE|TWO))|DIGIT (EIGHT|FIVE|FOUR|NINE|ONE|SEVEN|
SIX|THREE|TWO|ZERO)|ISSHAR|LETTER (A|AA|AI|AU|BA|BHA|CA|CHA|DA|DDA|DDHA|DHA|E|GA|GHA|HA|I|II|JA|
JHA|KA|KHA|KHANDA TA|LA|MA|NA|NGA|NNA|NYA|O|PA|PHA|RA( WITH (LOWER|MIDDLE) DIAGONAL|)|RHA|RRA|SA|
SHA|SSA|TA|THA|TTA|TTHA|U|UU|VEDIC ANUSVARA|VOCALIC (L|LL|R|RR)|YA|YYA)|RUPEE (MARK|SIGN)|
SIGN (ANUSVARA|AVAGRAHA|CANDRABINDU|NUKTA|VIRAMA|VISARGA)|VOWEL SIGN (AA|AI|AU|E|I|II|O|U|UU|
VOCALIC (L|LL|R|RR)))|BENT ARROW POINTING DOWNWARDS THEN NORTH EAST|(BENTO|BEVERAGE|
SHOULDERED OPEN|TAKEOUT) BOX|BENZENE RING( WITH CIRCLE|)|BETWEEN|BHAIKSUKI (DANDA|DIGIT (EIGHT|
FIVE|FOUR|NINE|ONE|SEVEN|SIX|THREE|TWO|ZERO)|DOUBLE DANDA|GAP FILLER-(1|2)|HUNDREDS UNIT MARK|
LETTER (A|AA|AI|AU|BA|BHA|CA|CHA|DA|DDA|DDHA|DHA|E|GA|GHA|HA|I|II|JA|JHA|KA|KHA|LA|MA|NA|NGA|NNA|
NYA|O|PA|PHA|RA|SA|SHA|SSA|TA|THA|TTA|TTHA|U|UU|VA|VOCALIC (L|R|RR)|YA)|NUMBER (EIGHT|EIGHTY|FIFTY|
FIVE|FORTY|FOUR|NINE|NINETY|ONE|SEVEN|SEVENTY|SIX|SIXTY|TEN|THIRTY|THREE|TWENTY|TWO)|
SIGN (ANUSVARA|AVAGRAHA|CANDRABINDU|VIRAMA|VISARGA)|VOWEL SIGN (AA|AI|AU|E|I|II|O|U|UU|VOCALIC (L|
R|RR))|WORD SEPARATOR)|BICYCLE|BICYCLIST|BIG (REVERSE SOLIDUS|SOLIDUS)|BIKINI|BILLED CAP|BILLIARDS|
BIRD|BIRTHDAY CAKE|BISON|BITING LIP|BLACK( (BOWTIE|(CENTRE WHITE|FOUR POINTED) STAR|CHESS ((BISHOP|
KING|PAWN|QUEEN|ROOK)( ROTATED (NINETY|TWO HUNDRED SEVENTY) DEGREES|)|
EQUIHOPPER( ROTATED NINETY DEGREES|)|KNIGHT( ROTATED ((FORTY-FIVE|NINETY|ONE HUNDRED THIRTY-FIVE|
THREE HUNDRED FIFTEEN) DEGREES|TWO HUNDRED (SEVENTY|TWENTY-FIVE) DEGREES)|-(BISHOP|QUEEN|ROOK)|)|
TURNED (BISHOP|KING|KNIGHT|PAWN|QUEEN|ROOK))|CIRCLE( (FOR RECORD|WITH (DOWN ARROW|TWO WHITE DOTS|
WHITE DOT RIGHT))|)|(CLUB|SPADE) SUIT|CROSS ON SHIELD|CURVED ((DOWNWARDS|UPWARDS) AND (LEFTWARDS|
RIGHTWARDS) ARROW|(LEFTWARDS|RIGHTWARDS) AND (DOWNWARDS|UPWARDS) ARROW)|DIAMOND( (CENTRED|
MINUS WHITE X|ON CROSS|SUIT|WITH DOWN ARROW)|)|(DOWN|UP)( POINTING BACKHAND INDEX|
-POINTING ((DOUBLE|ISOSCELES RIGHT|SMALL) TRIANGLE|TRIANGLE))|(DOWNWARDS|
UPWARDS) EQUILATERAL ARROWHEAD|DRAUGHTS (KING|MAN)|DROPLET|FLAG|FLORETTE|FOLDER|
HARD SHELL FLOPPY DISK|HEART( SUIT|)|HEXAGON|HORIZONTAL ELLIPSE|HOURGLASS|(LARGE|
SLIGHTLY SMALL) (CIRCLE|SQUARE)|LEFT( (LANE MERGE|POINTING (BACKHAND INDEX|INDEX))|
-POINTING (DOUBLE TRIANGLE( WITH VERTICAL BAR|)|(ISOSCELES RIGHT|SMALL) TRIANGLE|POINTER|
TRIANGLE))|LEFTWARDS (BULLET|EQUILATERAL ARROWHEAD)|(LOWER|UPPER) (LEFT|RIGHT) TRIANGLE|LOZENGE|
MEDIUM (DIAMOND|(DOWN|LEFT|RIGHT|UP)-POINTING TRIANGLE( CENTRED|)|LOZENGE|SMALL (DIAMOND|LOZENGE|
SQUARE)|SQUARE)|MOON LILITH|NIB|OCTAGON|PARALLELOGRAM|PENNANT|PENTAGON|PUSHPIN|
QUESTION MARK ORNAMENT|RECTANGLE|RIGHT( POINTING (BACKHAND INDEX|INDEX)|
-POINTING (DOUBLE TRIANGLE( WITH VERTICAL BAR|)|(ISOSCELES RIGHT|SMALL) TRIANGLE|PENTAGON|POINTER|
TRIANGLE( WITH DOUBLE VERTICAL BAR|)))|RIGHTWARDS (ARROW|ARROWHEAD|BULLET|EQUILATERAL ARROWHEAD)|
ROSETTE|SAFETY SCISSORS|SCISSORS|SHOGI PIECE|SKULL AND CROSSBONES|SMALL (DIAMOND|LOZENGE|SQUARE|
STAR)|SMILING FACE|SNOWMAN|SQUARE( (BUTTON|CENTRED|FOR STOP)|)|STAR|SUN WITH RAYS|TELEPHONE|(TINY|
VERY SMALL) (DIAMOND|LOZENGE|SQUARE)|TOUCHTONE TELEPHONE|TRUCK|TWO-WAY LEFT WAY TRAFFIC|
UNIVERSAL RECYCLING SYMBOL|VERTICAL (ELLIPSE|RECTANGLE))|-(FEATHERED (NORTH EAST|RIGHTWARDS|
SOUTH EAST) ARROW|LETTER CAPITAL (C|H|I|R|Z)))|BLOCK( (SEXTANT(-(1~6|12~16|23~26|34~36|45|46|56|
123~126|134|136|145|146|156|234~236|245|256|345|346|356|456|1234~1236|1245|1246|1256|1345|1346|
1356|1456|2345|2346|2356|2456|3456|12345|12346|12356|12456|13456|23456))))|BLOSSOM|BLOWFISH|(BLUE|
ORANGE) (BOOK|HEART)|BLUEBERRIES|BOAR|BOLD ((EIGHT|FIVE|SIX) SPOKED ASTERISK|GREEK CROSS|SALTIRE|
WHITE (CIRCLE|SQUARE))|BOM|BOMB|BONE|BOOK|BOOKMARK( TABS|)|BOOKS|BOOMERANG|
BOPOMOFO (FINAL LETTER (G|H|K|P|T)|LETTER (A|AH|AI|AINN|AM|AN|ANG|ANN|AU|AUNN|B|BU|C|CH|D|E|EE|EH|
EI|EN|ENG|ENN|ER|F|G|GH|GN|GU|GW|H|I|IH|IM|INN|INNN|IR|IU|J|JI|K|KW|L|LH|M|N|NG|NGG|NN|
O( WITH DOT ABOVE|)|OE|OM|ONG|ONN|OO|OU|P|Q|R|S|SH|T|U|UNN|V|X|Z|ZH|ZI|ZY))|
BOTTLE WITH POPPING CORK|BOTTOM (ARC ANTICLOCKWISE ARROW|(CURLY|TORTOISE SHELL) BRACKET|
HALF (BLACK CIRCLE|INTEGRAL|(LEFT|RIGHT) PARENTHESIS)|(LEFT|RIGHT) (CORNER|CROP|HALF BRACKET)|
PARENTHESIS|SQUARE BRACKET( OVER TOP SQUARE BRACKET|))|BOUQUET( OF FLOWERS|)|(BOW AND|
DRAFTING POINT RIGHTWARDS|SQUAT BLACK RIGHTWARDS|WEDGE-TAILED RIGHTWARDS) ARROW|BOWL (OF HYGIEIA|
WITH SPOON)|BOWLING|BOWTIE( WITH (LEFT|RIGHT) HALF BLACK|)|BOX DRAWINGS (DOUBLE ((DOWN|
UP) AND (HORIZONTAL|LEFT|RIGHT)|HORIZONTAL|VERTICAL( AND (HORIZONTAL|LEFT|RIGHT)|))|
DOWN (DOUBLE AND (HORIZONTAL|LEFT|RIGHT) SINGLE|HEAVY AND ((HORIZONTAL|UP HORIZONTAL) LIGHT|(LEFT|
RIGHT) (LIGHT|UP LIGHT))|LIGHT AND ((HORIZONTAL|UP HORIZONTAL) HEAVY|(LEFT|RIGHT) (HEAVY|
UP HEAVY))|SINGLE AND (HORIZONTAL|LEFT|RIGHT) DOUBLE)|HEAVY ((DOUBLE|QUADRUPLE|
TRIPLE) DASH (HORIZONTAL|VERTICAL)|(DOWN|VERTICAL)( AND (HORIZONTAL|LEFT|RIGHT)|)|HORIZONTAL|
LEFT( AND LIGHT RIGHT|)|RIGHT|UP( AND (HORIZONTAL|LEFT|LIGHT DOWN|RIGHT)|))|
LEFT ((DOWN HEAVY AND RIGHT UP|UP HEAVY AND RIGHT DOWN) LIGHT|HEAVY AND RIGHT (DOWN|UP|
VERTICAL) LIGHT|LIGHT AND RIGHT (DOWN|UP|VERTICAL) HEAVY)|LIGHT (ARC (DOWN|UP) AND (LEFT|RIGHT)|
DIAGONAL (CROSS|DIAMOND|MIDDLE (LEFT TO (LOWER CENTRE( TO MIDDLE RIGHT|)|
UPPER CENTRE TO MIDDLE RIGHT( TO LOWER CENTRE|))|RIGHT TO (LOWER|
UPPER CENTRE TO MIDDLE LEFT TO LOWER) CENTRE)|
UPPER (CENTRE TO MIDDLE (LEFT( (AND MIDDLE RIGHT TO LOWER CENTRE|TO LOWER CENTRE( TO MIDDLE RIGHT|
))|)|RIGHT( (AND MIDDLE LEFT TO LOWER CENTRE|TO LOWER CENTRE( TO MIDDLE LEFT|))|))|
LEFT TO LOWER RIGHT|RIGHT TO LOWER LEFT))|(DOUBLE|QUADRUPLE|TRIPLE) DASH (HORIZONTAL|VERTICAL)|
(DOWN|VERTICAL)( AND (HORIZONTAL|LEFT|RIGHT)|)|HORIZONTAL( WITH VERTICAL STROKE|)|
LEFT( AND HEAVY RIGHT|)|RIGHT|UP( AND (HEAVY DOWN|HORIZONTAL|LEFT|RIGHT)|))|
RIGHT ((DOWN HEAVY AND LEFT UP|UP HEAVY AND LEFT DOWN) LIGHT|HEAVY AND LEFT (DOWN|UP|
VERTICAL) LIGHT|LIGHT AND LEFT (DOWN|UP|VERTICAL) HEAVY)|UP (DOUBLE AND (HORIZONTAL|LEFT|
RIGHT) SINGLE|HEAVY AND ((DOWN HORIZONTAL|HORIZONTAL) LIGHT|(LEFT|RIGHT) (DOWN LIGHT|LIGHT))|
LIGHT AND ((DOWN HORIZONTAL|HORIZONTAL) HEAVY|(LEFT|RIGHT) (DOWN HEAVY|HEAVY))|
SINGLE AND (HORIZONTAL|LEFT|RIGHT) DOUBLE)|VERTICAL (DOUBLE AND (HORIZONTAL|LEFT|RIGHT) SINGLE|
HEAVY AND (HORIZONTAL|LEFT|RIGHT) LIGHT|LIGHT AND (HORIZONTAL|LEFT|RIGHT) HEAVY|
SINGLE AND (HORIZONTAL|LEFT|RIGHT) DOUBLE))|BOXING GLOVE|BOY|BPH|BRAHMI (DANDA|DIGIT (EIGHT|FIVE|
FOUR|NINE|ONE|SEVEN|SIX|THREE|TWO|ZERO)|DOUBLE DANDA|LETTER (A|AA|AI|AU|BA|BHA|CA|CHA|DA|DDA|DDHA|
DHA|E|GA|GHA|HA|I|II|JA|JHA|KA|KHA|LA|LLA|MA|NA|NGA|NNA|NYA|O|OLD TAMIL (LLA|LLLA|NNNA|RRA|
SHORT (E|O))|PA|PHA|RA|SA|SHA|SSA|TA|THA|TTA|TTHA|U|UU|VA|VOCALIC (L|LL|R|RR)|YA)|NUMBER (EIGHT|
EIGHTY|FIFTY|FIVE|FORTY|FOUR|JOINER|NINE|NINETY|ONE( (HUNDRED|THOUSAND)|)|SEVEN|SEVENTY|SIX|SIXTY|
TEN|THIRTY|THREE|TWENTY|TWO)|PUNCTUATION (CRESCENT BAR|DOT|DOUBLE DOT|LINE|LOTUS)|SIGN (ANUSVARA|
CANDRABINDU|JIHVAMULIYA|OLD TAMIL VIRAMA|UPADHMANIYA|VISARGA)|VIRAMA|VOWEL SIGN (AA|AI|AU|
BHATTIPROLU AA|E|I|II|O|OLD TAMIL SHORT (E|O)|U|UU|VOCALIC (L|LL|R|RR)))|BRAILLE( (PATTERN( (BLANK|
DOTS(-(1~8|12~18|23~28|34~38|45~48|56~58|67|68|78|123~128|134~138|145~148|156~158|167|168|178|
234~238|245~248|256~258|267|268|278|345~348|356~358|367|368|378|456~458|467|468|478|567|568|578|
678|1234~1238|1245~1248|1256~1258|1267|1268|1278|1345~1348|1356~1358|1367|1368|1378|1456~1458|1467|
1468|1478|1567|1568|1578|1678|2345~2348|2356~2358|2367|2368|2378|2456~2458|2467|2468|2478|2567|
2568|2578|2678|3456~3458|3467|3468|3478|3567|3568|3578|3678|4567|4568|4578|4678|5678|12345~12348|
12356~12358|12367|12368|12378|12456~12458|12467|12468|12478|12567|12568|12578|12678|13456~13458|
13467|13468|13478|13567|13568|13578|13678|14567|14568|14578|14678|15678|23456~23458|23467|23468|
23478|23567|23568|23578|23678|24567|24568|24578|24678|25678|34567|34568|34578|34678|35678|45678|
123456~123458|123467|123468|123478|123567|123568|123578|123678|124567|124568|124578|124678|125678|
134567|134568|134578|134678|135678|145678|234567|234568|234578|234678|235678|245678|345678|1234567|
1234568|1234578|1234678|1235678|1245678|1345678|2345678|12345678))))))|BRAIN|BREAD|
BREAK PERMITTED HERE|BREAST-FEEDING|BREVE|BRICK|BRIDE WITH VEIL|BRIDGE AT NIGHT|BRIEFCASE|BRIEFS|
BROCCOLI|BROKEN (BAR|CIRCLE WITH NORTHWEST ARROW|HEART)|BROOM|BS|BUBBLE TEA|BUBBLES|BUCKET|BUG|
BUGINESE (END OF SECTION|LETTER (A|BA|CA|DA|GA|HA|JA|KA|LA|MA|MPA|NA|NGA|NGKA|NRA|NYA|NYCA|PA|RA|
SA|TA|VA|YA)|PALLAWA|VOWEL SIGN (AE|E|I|O|U))|BUHID (LETTER (A|BA|DA|GA|HA|I|KA|LA|MA|NA|NGA|PA|RA|
SA|TA|U|WA|YA)|VOWEL SIGN (I|U))|BUILDING CONSTRUCTION|BULLHORN( WITH SOUND WAVES|)|BULLSEYE|
BURRITO|BUS( STOP|)|(BUST|BUSTS|SPEAKING HEAD) IN SILHOUETTE|BUTTER|BUTTERFLY|(BYTE ORDER|CHECK|
DITTO|GETA|MASU|NUSHU ITERATION|PARAGRAPHUS|PART ALTERNATION|PUNCTUS ELEVATUS|QUOTATION|REFERENCE|
SERVICE) MARK|BYZANTINE MUSICAL SYMBOL (AGOGI (ARGI|ARGOTERI|GORGI|GORGOTERI|MESI|METRIA|
POLI (ARGI|GORGI))|ANATRICHISMA|ANTIKENOKYLISMA|ANTIKENOMA|APESO (EKFONITIKON|EXO NEO)|APLI|
(APODERMA|CHOREVMA|ISON|OLIGON|OYRANISMA|PARAKALESMA|PIASMA) (ARCHAION|NEO)|
APOSTROFOI (SYNDESMOS NEO|TELOUS ICHIMATOS)|APOSTROFOS( (DIPLI|NEO)|)|APOTHEMA|ARGON|ARGOSYNTHETON|
ARKTIKO (DI|GA|KE|NI|PA|VOU|ZO)|CHAMILI|CHAMILON|CHROA (KLITON|SPATHI|ZYGOS)|DASEIA|DIARGON|
DIASTOLI (APLI (MEGALI|MIKRI)|DIPLI|THESEOS)|DIESIS ((APLI DYO|DIGRAMMOS EX|MONOGRAMMOS TESSERA|
TRIGRAMMOS OKTO) DODEKATA|TETARTIMORION|TRITIMORION)|DIFTOGGOS OU|
DIGORGON( PARESTIGMENON (ARISTERA (ANO|KATO)|DEXIA)|)|DIGRAMMA GG|DIPLI( ARCHAION|)|DYO|EKSTREPTON|
ELAFRON|ENARXIS KAI FTHORA VOU|ENDOFONON|EPEGERMA|ETERON (ARGOSYNTHETON|PARAKALESMA)|
EXO EKFONITIKON|FANEROSIS (DIFONIAS|MONOFONIAS|TETRAFONIAS)|FHTORA SKLIRON CHROMA VASIS|
FTHORA (ARCHAION( DEYTEROU ICHOU|)|DIATONIKI (DI|KE|NANA|NI (ANO|KATO)|PA|ZO)|ENARMONIOS ANTIFONIA|
I YFESIS TETARTIMORION|MALAKON CHROMA (DIFONIAS|MONOFONIAS)|NAOS ICHOS|NENANO|
SKLIRON (CHROMA (SYNAFI|VASIS)|DIATONON DI))|GENIKI (DIESIS|YFESIS)|GORGON (ARCHAION|NEO (ANO|
KATO)|PARESTIGMENON (ARISTERA|DEXIA))|GORGOSYNTHETON|GORTHMIKON N (APLOUN|DIPLOUN)|GRONTHISMATA|
ICHADIN|IMIDIARGON|IMIFONON|IMIFTHORA|IMIFTHORON|ISAKIA TELOUS ICHIMATOS|KATAVA TROMIKON|KATAVASMA|
KATHISTI|KENTIMA (ARCHAION|NEO (ANO|KATO|MESO))|KENTIMATA( (ARCHAION|NEO (ANO|KATO|MESO))|)|
KLASMA( (ANO|KATO)|)|KONTEVMA( ALLO|)|KORONIS|KOUFISMA|(KRATIMA|TROMIKON) (ALLO|ARCHAION|NEO)|
KRATIMATA|KRATIMOKOUFISMA|KRATIMOYPORROON|KREMASTI|KYLISMA|LEIMMA ((DYO|TESSARON|TRION) CHRONON|
(ENOS|IMISEOS) CHRONOU)|LEMOI|LYGISMA|MARTYRIA (ALLI (DEYTEROS|PROTOS) ICHOS|(DEYTEROS|LEGETOS|
PROTOS|PROTOVARYS|TRITOS|VARYS) ICHOS|PLAGIOS (ICHOS|TETARTOS ICHOS)|TETARTOS (ICHOS|
LEGETOS ICHOS)|TRIFONIAS)|MIKRON ISON|NANA|OMALON|(OXEIA|VAREIA) (DIPLI|EKFONITIKON|NEO)|(OXEIAI|
VAREIAI) ARCHAION|PARAKLITIKI( (ARCHAION|NEO)|)|PARICHON|(PELASTON|PSIFISTON|SEISMA)( NEO|)|
PERISPOMENI|PETASMA|PETASTI|PETASTOKOUFISMA|PSIFISTOLYGISMA|PSIFISTOPARAKALESMA|PSIFISTOSYNAGMA|
PSILI|PSILON|RAPISMA|REVMA|SAXIMATA|SIMANSIS (ARSEOS|THESEOS)( (DISIMOU|TETRASIMOU|TRISIMOU)|)|
STAVROS( APODEXIA|)|STIGMA|STRAGGISMATA|SYNAGMA (ARCHAION|META STAVROU|NEO)|SYNEVMA|SYRMA|
SYRMATIKI|TELEIA|TESSERA|TETRAPLI|THEMA( APLOUN|)|THEMATISMOS (ESO|EXO)|THES KAI APOTHES|THITA|
TINAGMA|TRIA|TRIGORGON|TRIPLI|TROMIKOLYGISMA|TROMIKOPARAKALESMA|TROMIKOPSIFISTON|TROMIKOSYNAGMA|
VATHY|XIRON KLASMA|YFEN (ANO|KATO)|YFESIS ((APLI DYO|DIGRAMMOS EX|MONOGRAMMOS TESSERA|
TRIGRAMMOS OKTO) DODEKATA|TRITIMORION)|YPOKRISIS( DIPLI|)|YPORROI|YPSILI)|CACTUS|CADA UNA|CADUCEUS|
CALENDAR|(CALL ME|HAPPY PERSON RAISING ONE|PINCHING|VICTORY|WRITING) HAND|CAMERA( WITH FLASH|)|
CAMPING|CAN|CANADIAN SYLLABICS (A|AA|AAI|AAY|AI|AIVILIK B|AN|ATHAPASCAN (M|S)|AY|(BEAVER DENE|
MEDIAL) (L|R)|BIBLE-CREE Y|BLACKFOOT (A|E|I|KA|KE|KI|KO|NA|NE|NI|NO|O|S|W|WA|WE|WI|WO)|C|CA|CAA|
CAAI|CARRIER (CHA|CHE|CHEE|CHI|CHO|CHU|DEE|DENE GEE|DENTAL S|DI|DLA|DLE|DLEE|DLI|DLO|DLU|DZA|DZE|
DZEE|DZI|DZO|DZU|EE|GA|GAA|GE|GEE|GHA|GHE|GHEE|GHI|GHO|GHU|GI|GO|GU|GWA|GWU|H|HEE|HI|HWA|HWE|HWEE|
HWI|HWO|HWU|I|INITIAL Z|JA|JE|JEE|JI|JJA|JJE|JJEE|JJI|JJO|JJU|JO|JU|JWA|KHA|KHE|KHEE|KHI|KHO|KHU|
KK|KKA|KKE|KKEE|KKI|KKO|KKU|LA|LE|LEE|LHA|LHE|LHEE|LHI|LHO|LHU|LI|LO|LU|MA|ME|MEE|MI|MO|MU|NA|NE|
NEE|NG|NI|NO|NU|P|PA|PE|PEE|PI|PO|PU|RA|RE|REE|RI|RO|RU|SA|SE|SEE|SH|SHA|SHE|SHEE|SHI|SHO|SHU|SI|
SO|SU|THA|THE|THEE|THI|THO|THU|TLA|TLE|TLEE|TLHA|TLHE|TLHEE|TLHI|TLHO|TLHU|TLI|TLO|TLU|TSA|TSE|
TSEE|TSI|TSO|TSU|TTA|TTE|TTEE|TTI|TTO|TTSA|TTSE|TTSEE|TTSI|TTSO|TTSU|TTU|WA|WE|WEE|WI|WO|WU|YA|YE|
YEE|YI|YO|YU|Z|ZA|ZE|ZEE|ZI|ZO|ZU)|CE|CHI SIGN|CI|CII|CO|COO|CWA|CWAA|CWE|CWI|CWII|CWO|CWOO|E|
EASTERN W|EN|F|FA|FAA|FAAI|FE|FI|FII|FINAL (ACUTE|(BOTTOM|RIGHT|TOP) HALF RING|DOUBLE (ACUTE|
SHORT VERTICAL STROKES)|DOWN TACK|GRAVE|MIDDLE DOT|PLUS|RAISED DOT|RING|SHORT HORIZONTAL STROKE|
SMALL RING)|FO|FOO|(FULL|GLOTTAL) STOP|FWAA|HK|HYPHEN|I|II|IN|K|KA|KAA|KAAI|KAY|KE|KI|KII|KO|KOO|
KW|KWA|KWAA|KWAY|KWE|KWI|KWII|KWO|KWOO|L|LA|LAA|LAAI|LAY|LE|LH|LHA|LHAA|LHI|LHII|LHO|LHOO|LI|LII|
LO|LOO|LWA|LWAA|LWE|LWI|LWII|LWO|LWOO|M|MA|MAA|MAAI|MAY|ME|MH|MI|MII|MO|MOO|MOOSE-CREE SK|MWA|MWAA|
MWE|MWI|MWII|MWO|MWOO|N(-CREE (THE|THI|THII)|)|NA|NAA|NAAI|NASKAPI (CWAA|KWAA|MWAA|NWAA|S-W|SCWA|
SKW|SKWA|SPWA|STWA|SWAA|TWAA|WAA|WOO|YWAA)|NATTILIK (HA|HAA|HI|HII|HO|HOO|SHRA|SHRAA|SHRI|SHRII|
SHRO|SHROO)|NAY|NE|NG|NGA|NGAA|NGAAI|NGAI|NGI|NGII|NGO|NGOO|NH|NI|NII|NNG|NNGA|NNGAA|NNGI|NNGII|
NNGO|NNGOO|NO|NOO|NOY|NUNAVIK (H|HA|HAA|HE|HI|HII|HO|HOO)|NUNAVUT H|NWA|NWAA|NWE|NWI|NWII|NWO|NWOO|
O|OJIBWAY (C|K|M|N|NWI|NWII|NWO|NWOO|P|S|SH|T)|ON|OO|OY|P|PA|PAA|PAAI|PAY|PE|PI|PII|PO|POO|POY|PWA|
PWAA|PWE|PWI|PWII|PWO|PWOO|PWOY|Q|QA|QAA|QAAI|QAI|QI|QII|QO|QOO|R(-CREE (RE|RWE)|)|RA|RAA|RAAI|RAY|
RE|RI|RII|RO|ROO|RWA|RWAA|RWEE|RWI|RWII|RWO|RWOO|S|SA|SAA|SAAI|SAY|SAYISI (HA|HE|HI|HO|HOO|JI|JU|
JUU|M|SHA|SHE|SHI|SHO|SHOO|SHWE|TH|YI)|SE|SH|SHA|SHAA|SHAY|SHE|SHI|SHII|SHO|SHOO|SHOY|SHWA|SHWAA|
SHWE|SHWI|SHWII|SHWO|SHWOO|SHWOY|SI|SII|SO|SOO|SOUTH-SLAVEY (KAH|KEH|KIH|KOH)|SOY|SPA|SPE|SPI|SPO|
SW|SWA|SWAA|SWE|SWI|SWII|SWO|SWOO|T|TA|TAA|TAAI|TAY|TE|TH(-CREE (TH|THA|THAA|THE|THI|THII|THO|
THOO)|)|THA|THAA|THE|THI|THII|THO|THOO|THWA|THWAA|THWE|TI|TII|TLHA|TLHE|TLHI|TLHO|TLHOO|TLHWE|TO|
TOO|TTA|TTE|TTH|TTHA|TTHAA|TTHE|TTHI|TTHO|TTHOO|TTHWE|TTI|TTO|TWA|TWAA|TWE|TWI|TWII|TWO|TWOO|TYA|
TYE|TYI|TYO|WA|WAA|WAY|WE|WEST-CREE (CWA|CWAA|CWE|CWI|CWII|CWO|CWOO|FWAA|KWA|KWAA|KWE|KWI|KWII|KWO|
KWOO|L|LA|LAA|LE|LO|LOO|LWA|LWAA|LWE|LWI|LWII|LWO|LWOO|M|MWA|MWAA|MWE|MWI|MWII|MWO|MWOO|NWA|NWAA|
NWE|P|PWA|PWAA|PWE|PWI|PWII|PWO|PWOO|R|RA|RE|RI|RO|RWAA|SHWA|SHWAA|SHWE|SHWI|SHWII|SHWO|SHWOO|SWA|
SWAA|SWE|SWI|SWII|SWO|SWOO|THWAA|TWA|TWAA|TWE|TWI|TWII|TWO|TWOO|WA|WAA|WE|WI|WII|WO|WOO|Y|YWA|YWAA|
YWE|YWI|YWII|YWO|YWOO)|WESTERN W|WI|WII|WO|WOO|WOODS-CREE (FINAL TH|TH|THA|THE|THI|THO|THWA|THWAA|
THWEE|THWI|THWII|THWO|THWOO)|Y(-CREE (COO|KOO|LOO|MOO|NOO|OO|POO|PWAA|SOO|TOO|W|YOO)|)|YA|YAA|YAAI|
YAY|YE|YI|YII|YO|YOO|YOY|YWA|YWAA|YWE|YWI|YWII|YWO|YWOO)|CANCEL( (CHARACTER|TAG)|)|CANCELLATION X|
CANCER|CANDLE|CANDY|(CANNED|POT OF|SHALLOW PAN OF) FOOD|CANOE|CAPITULUM|CAPRICORN|CAR SLIDING|
CARD (FILE BOX|INDEX( DIVIDERS|))|CARET( INSERTION POINT|)|CARIAN( (LETTER( ((A|D|E|G|K|LD|P|SH|ST|
TT)(2|)|B|C-(18|39)|I|II|L|M|MB(2~4|)|N|ND|NG|NN|O|Q|R|RR|S|SS|T|U|UU|UUU(2|3|)|UUUU|X))))|CARON|
CAROUSEL HORSE|CARP STREAMER|CARPENTRY SAW|CARRIAGE RETURN|CARROT|CASTLE|
CAT( FACE( WITH (TEARS OF JOY|WRY SMILE)|)|)|CAUCASIAN ALBANIAN (CITATION MARK|LETTER (ALT|AOR|BET|
CAR|CAYN|CHA|CHAT|CHI|CHOY|CYAW|CYAY|DAT|DYAN|DZAY|DZYAY|EB|EYN|FAM|GHEYS|GIM|HEYT|INYA|IRB|IWN|
JAYN|JHOX|KAR|KIW|LAN|LYIT|MAQ|NOWC|ON|PEN|PIWR|QAR|QAY|RAT|SEYK|SHA|SHAK|SHOY|TAS|TIWR|TYAY|VEYZ|
XEYN|YAYD|YOWD|ZARL|ZHA|ZHIL))|CCH|CEDILLA|(CELTIC|EAST SYRIAC|HELMET WITH WHITE|MALTESE|ORTHODOX|
VOIDED GREEK|WEST SYRIAC) CROSS|CENTRELINE (LOW LINE|OVERLINE)|CERES|CGJ|CHAINS|CHAIR|CHAKMA ((AU|
O|QUESTION|SECTION) MARK|DANDA|DIGIT (EIGHT|FIVE|FOUR|NINE|ONE|SEVEN|SIX|THREE|TWO|ZERO)|
DOUBLE DANDA|LETTER (AA|BAA|BHAA|CAA|CHAA|DAA|DDAA|DDHAA|DHAA|E|GAA|GHAA|HAA|I|JAA|JHAA|KAA|KHAA|
LAA|LHAA|MAA|NAA|NGAA|NNAA|NYAA|PAA|PHAA|RAA|SAA|TAA|THAA|TTAA|TTHAA|U|VAA|WAA|YAA|YYAA)|MAAYYAA|
SIGN (ANUSVARA|CANDRABINDU|VISARGA)|VIRAMA|VOWEL SIGN (A|AA|AI|AU|E|EI|I|II|O|OI|U|UU))|
CHAM (CONSONANT SIGN (FINAL (H|M|NG)|LA|RA|WA|YA)|DIGIT (EIGHT|FIVE|FOUR|NINE|ONE|SEVEN|SIX|THREE|
TWO|ZERO)|LETTER (A|AI|BA|BBA|BHA|CHA|CHHA|DA|DDA|DHA|E|FINAL (CH|G|K|L|N|NG|P|R|SS|T|Y)|GA|GHA|HA|
I|JA|JHA|KA|KHA|LA|MA|MUE|NA|NGA|NGUE|NHA|NHJA|NHUE|NUE|O|PA|PHA|PPA|RA|SA|SSA|TA|THA|U|VA|YA)|
PUNCTUATION (DANDA|(DOUBLE|TRIPLE) DANDA|SPIRAL)|VOWEL SIGN (AA|AI|AU|EI|I|II|O|OE|U|UE))|
CHARACTER (TABULATION( (SET|WITH JUSTIFICATION)|)|TIE)|CHART WITH (DOWNWARDS TREND|
UPWARDS TREND( AND YEN SIGN|))|CHECKER BOARD( FILL|)|CHEERING MEGAPHONE|CHEESE WEDGE|
CHEQUERED FLAG|CHEROKEE (LETTER|SMALL LETTER) (A|DA|DE|DI|DLA|DO|DU|DV|E|GA|GE|GI|GO|GU|GV|HA|HE|
HI|HNA|HO|HU|HV|I|KA|LA|LE|LI|LO|LU|LV|MA|ME|MI|MO|MU|MV|NA|NAH|NE|NI|NO|NU|NV|O|QUA|QUE|QUI|QUO|
QUU|QUV|S|SA|SE|SI|SO|SU|SV|TA|TE|TI|TLA|TLE|TLI|TLO|TLU|TLV|TSA|TSE|TSI|TSO|TSU|TSV|U|V|WA|WE|WI|
WO|WU|WV|YA|YE|YI|YO|YU|YV)|CHERRIES|CHERRY BLOSSOM|CHESTNUT|CHI RHO|CHICKEN|CHILD|
CHILDREN CROSSING|CHIPMUNK|CHIRON|CHOCOLATE BAR|CHOPSTICKS|CHORASMIAN (LETTER (ALEPH|AYIN|BETH|
CURLED WAW|DALETH|GIMEL|HE|HETH|KAPH|LAMEDH|MEM|NUN|PE|RESH|SAMEKH|SHIN|SMALL ALEPH|TAW|WAW|YODH|
ZAYIN)|NUMBER (FOUR|ONE( HUNDRED|)|TEN|THREE|TWENTY|TWO))|(CHRISTMAS|DECIDUOUS|EVERGREEN|
TANABATA) TREE|CHURCH|CINEMA|CIRCLE (
DIVIDED BY HORIZONTAL BAR AND TOP HALF DIVIDED BY VERTICAL BAR|WITH ((ALL BUT UPPER LEFT QUADRANT|
LEFT HALF|LOWER HALF|RIGHT HALF) BLACK|HORIZONTAL BAR|(SMALL CIRCLE|
TWO HORIZONTAL STROKES) TO THE RIGHT|SUPERIMPOSED X|UPPER (HALF|RIGHT QUADRANT) BLACK|
VERTICAL FILL))|CIRCLED (ANTICLOCKWISE( ARROW|-ROTATED DIVISION SIGN)|(ASTERISK|DOT|RING) OPERATOR|
BOLD X|BULLET|(C|DOLLAR SIGN) WITH OVERLAID BACKSLASH|CC|CD|CROSS (FORMEE( WITH (FOUR|TWO) DOTS|)|
POMMEE)|CROSSING LANES|DASH|DIGIT (EIGHT|FIVE|FOUR|NINE|ONE|SEVEN|SIX|THREE|TWO|ZERO)|
DIVISION (SIGN|SLASH)|EQUALS|(GREATER|LESS)-THAN|HANGUL ((CHIEUCH|CIEUC|HIEUH|KHIEUKH|KIYEOK|MIEUM|
NIEUN|PHIEUPH|PIEUP|RIEUL|SIOS|THIEUTH|TIKEUT)( A|)|IEUNG( (A|U)|))|HEAVY WHITE RIGHTWARDS ARROW|
HORIZONTAL BAR WITH NOTCH|HUMAN FIGURE|IDEOGRAPH (ACCEPT|ADVANTAGE|ALLIANCE|ATTENTION|CENTRE|
CONGRATULATION|COPY|CORRECT|EARTH|EIGHT|ENTERPRISE|EXCELLENT|FEMALE|FINANCIAL|FIRE|FIVE|FOUR|HAVE|
HIGH|ITEM|KINDERGARTEN|KOTO|LABOR|LEFT|LOW|MALE|MEDICINE|METAL|MOON|NAME|NIGHT|NINE|ONE|PRINT|
QUESTION|RELIGION|RESOURCE|REST|RIGHT|SCHOOL|SECRET|SEVEN|SIX|SOCIETY|SPECIAL|STOCK|STUDY|SUITABLE|
SUN|SUPERVISE|TEN|THREE|TWO|WATER|WOOD)|INFORMATION SOURCE|ITALIC LATIN CAPITAL LETTER (C|R)|
KATAKANA (A|E|HA|HE|HI|HO|HU|I|KA|KE|KI|KO|KU|MA|ME|MI|MO|MU|NA|NE|NI|NO|NU|O|RA|RE|RI|RO|RU|SA|SE|
SI|SO|SU|TA|TE|TI|TO|TU|U|WA|WE|WI|WO|YA|YO|YU)|KOREAN CHARACTER (CHAMKO|JUEUI)|LATIN (CAPITAL|
SMALL) LETTER (A|B|C|D|E|F|G|H|I|J|K|L|M|N|O|P|Q|R|S|T|U|V|W|X|Y|Z)|MINUS|
MULTIPLICATION SIGN WITH CIRCUMFLEX ACCENT|NUMBER (EIGHTEEN|(EIGHTY|SEVENTY|SIXTY) ON BLACK SQUARE|
ELEVEN|FIFTEEN|(FIFTY|TEN)( ON BLACK SQUARE|)|(FORTY|THIRTY|TWENTY)( (EIGHT|FIVE|FOUR|NINE|
ON BLACK SQUARE|ONE|SEVEN|SIX|THREE|TWO)|)|FOURTEEN|NINETEEN|SEVENTEEN|SIXTEEN|THIRTEEN|TWELVE)|
OPEN CENTRE EIGHT POINTED STAR|PARALLEL|PERPENDICULAR|PLUS|POSTAL MARK|REVERSE SOLIDUS|SQUARE|
TIMES|TRIANGLE( DOWN|)|VERTICAL BAR|WHITE (BULLET|STAR)|WZ|X|ZERO WITH SLASH)|(CIRCULATION|
WEIERSTRASS ELLIPTIC) FUNCTION|(CIRCUMFLEX|GRAVE) ACCENT|CIRCUS TENT|CITYSCAPE( AT DUSK|)|
CJK (RADICAL (BAMBOO|BLUE|BOLT OF CLOTH|BONE|BOX|(BRUSH|HEART|KNIFE|LONG|MOUND|PAW|SMALL|SNOUT|
SPIRIT|WALK|WATER|WEST) (ONE|TWO)|C-SIMPLIFIED (BIRD|CART|DRAGON|EAT|EVEN|FISH|FLY|FROG|GATE|GOLD|
HORSE|LEAF|LONG|SALT|SEE|SHELL|SILK|SPEECH|TANNED LEATHER|TOOTH|TURTLE|WIND)|CHOKE|CITY|CIVILIAN|
CLIFF|CLOTHES|COW|DEATH|DIVINATION|DOG|(EAT|GRASS|SECOND) (ONE|THREE|TWO)|EWE|EYE|FIRE|FOOT|GHOST|
HAND|HEAD|HORN|J-SIMPLIFIED (DRAGON|EVEN|TOOTH|TURTLE)|JADE|(LAME|NET) (FOUR|ONE|THREE|TWO)|MEAT|
MESH|MOON|MORTAR|MOTHER|OLD|PERSON|RAIN|RAM|RAP|REPEAT|SEAL|SHEEP|SILK|SIMPLIFIED (HALF TREE TRUNK|
HORN|WALK|WHEAT|YELLOW)|SNAKE|SUN|TABLE|THREAD|TIGER|TURTLE)|STROKE (BXG|D|H|HG|HP|HPWG|HXWG|HZ|
HZG|HZT|HZW|HZWG|HZZ|HZZP|HZZZ|HZZZG|N|P|PD|PG|PZ|Q|S|SG|SP|ST|SW|SWG|SWZ|SZ|SZWG|SZZ|T|TN|WG|XG))|
CLAMSHELL MOBILE PHONE|CLAPPER BOARD|(CLASSICAL|DERELICT HOUSE|OFFICE) BUILDING|
CLINKING (BEER MUGS|GLASSES)|CLIPBOARD|CLOCK FACE (EIGHT|ELEVEN|FIVE|FOUR|NINE|ONE|SEVEN|SIX|TEN|
THREE|TWELVE|TWO)( OCLOCK|-THIRTY)|CLOCKWISE ((CLOSED|GAPPED|OPEN|
TRIANGLE-HEADED OPEN) CIRCLE ARROW|CONTOUR INTEGRAL|(DOWNWARDS AND UPWARDS OPEN CIRCLE|
RIGHT AND LEFT SEMICIRCLE) ARROWS|INTEGRAL|
RIGHTWARDS AND LEFTWARDS OPEN CIRCLE ARROWS( WITH CIRCLED ONE OVERLAY|)|TOP SEMICIRCLE ARROW)|
CLOSE UP|CLOSED (BOOK|INTERSECTION WITH SERIFS|LOCK WITH KEY|MAILBOX WITH (LOWERED|RAISED) FLAG|
(SUBSET|SUPERSET)( OR EQUAL TO|)|UMBRELLA|UNION WITH SERIFS( AND SMASH PRODUCT|))|
CLOUD( WITH (LIGHTNING|RAIN|SNOW|TORNADO)|)|COAT|COCKROACH|(COCKTAIL|TUMBLER|WINE) GLASS|COCONUT|
COFFIN|COIN|COLON( (EQUALS|SIGN)|)|COMBINING (ACUTE( (ACCENT( BELOW|)|TONE MARK)|-(GRAVE-ACUTE|
MACRON))|(ALMOST EQUAL TO|ASTERISK|BRIDGE|PLUS SIGN|UP TACK|ZIGZAG) (ABOVE|BELOW)|ANNUITY SYMBOL|
(ANTICLOCKWISE|CLOCKWISE) (ARROW ABOVE|RING OVERLAY)|(BINDU|DOWN TACK|EQUALS SIGN|IS|
LIGHT CENTRALIZATION STROKE|MINUS SIGN|OPEN MARK|PALATALIZED HOOK|RETROFLEX HOOK|SEAGULL|SNAKE|
STRONG CENTRALIZATION STROKE|UPWARDS ARROW|WIGGLY LINE) BELOW|BREVE( BELOW|-MACRON|)|CANDRABINDU|
(CARON|CIRCUMFLEX ACCENT|CONJOINING MACRON)( BELOW|)|CEDILLA|COMMA (ABOVE( RIGHT|)|BELOW)|
CYRILLIC ((DASIA|PSILI) PNEUMATA|HUNDRED (MILLIONS|THOUSANDS) SIGN|KAVYKA|LETTER (A|BE|BIG YUS|CHE|
DE|DJERV|EF|EL|EM|EN|ER|ES(-TE|)|FITA|GHE|HA|(HARD|SOFT) SIGN|I|IE|IOTIFIED (A|BIG YUS|E)|KA|
LITTLE YUS|MONOGRAPH UK|O|OMEGA|PE|SHA|SHCHA|TE|TSE|U|UKRAINIAN IE|VE|YAT|YERU|YI|YU|ZE|ZHE)|
(MILLIONS|TEN MILLIONS|THOUSAND MILLIONS) SIGN|PALATALIZATION|PAYEROK|POKRYTIE|TITLO( (LEFT|
RIGHT) HALF|)|VZMET)|(DELETION|SUSPENSION) MARK|DEVANAGARI (DIGIT (EIGHT|FIVE|FOUR|NINE|ONE|SEVEN|
SIX|THREE|TWO|ZERO)|LETTER (A|KA|NA|PA|RA|U|VI)|SIGN AVAGRAHA)|DIAERESIS( BELOW|-RING|)|
DOT (ABOVE( (LEFT|RIGHT)|)|BELOW( LEFT|))|DOTTED (ACUTE|GRAVE) ACCENT|DOUBLE ((ACUTE|GRAVE) ACCENT|
(BREVE|INVERTED BREVE|MACRON)( BELOW|)|(CIRCUMFLEX|PARENTHESES) ABOVE|LOW LINE|(OPEN MARK|
RIGHTWARDS ARROW|RING) BELOW|OVERLINE|PLUS SIGN (ABOVE|BELOW)|TILDE( (LEFT|RIGHT) HALF|)|
VERTICAL (LINE (ABOVE|BELOW)|STROKE OVERLAY))|DOUBLED CIRCUMFLEX ACCENT|DOWNWARDS ARROW|
ENCLOSING (CIRCLE( BACKSLASH|)|DIAMOND|KEYCAP|SCREEN|SQUARE|UPWARD POINTING TRIANGLE)|FERMATA|
(FOUR DOTS|HOMOTHETIC|HOOK|NOT TILDE|NUMBER SIGN|REVERSED COMMA|THREE DOTS|TURNED COMMA|UR|
US) ABOVE|GLAGOLITIC LETTER (AZU|BIG YUS|BUKY|CHRIVI|DJERVI|DOBRO|FITA|FRITU|GLAGOLI|HERU|I|
INITIAL IZHE|IOTATED (BIG YUS|SMALL YUS)|IZHE|KAKO|LJUDIJE|MYSLITE|NASHI|ONU|POKOJI|RITSI|SHA|SHTA|
SLOVO|SMALL YUS|TSI|TVRIDO|UKU|VEDE|YATI|YERI|YERU|YESTU|YO|YU|ZEMLJA|ZHIVETE)|
GRANTHA (DIGIT (FIVE|FOUR|ONE|SIX|THREE|TWO|ZERO)|LETTER (A|KA|NA|PA|VI))|GRAPHEME JOINER|
GRAVE( (ACCENT( BELOW|)|TONE MARK)|-(ACUTE-GRAVE|MACRON))|GREEK (DIALYTIKA TONOS|KORONIS|
MUSICAL (PENTASEME|TETRASEME|TRISEME)|PERISPOMENI|YPOGEGRAMMENI)|HORN|INFINITY|
INVERTED (BREVE( BELOW|)|BRIDGE BELOW|DOUBLE ARCH (ABOVE|BELOW))|KATAKANA-HIRAGANA (SEMI-VOICED|
VOICED) SOUND MARK|KAVYKA ABOVE (LEFT|RIGHT)|LATIN (LETTER SMALL CAPITAL (G|L|M|N|R)|
SMALL LETTER (A( WITH DIAERESIS|)|AE|ALPHA|AO|AV|B|BETA|C( CEDILLA|)|D|E|ESH|ETH|F|
FLATTENED OPEN A ABOVE|G|H|I|INSULAR (D|G|R|T)|K|L( WITH DOUBLE MIDDLE TILDE|)|LONG S|M|N|(O|
U)( WITH (DIAERESIS|LIGHT CENTRALIZATION STROKE)|)|P|R( (BELOW|ROTUNDA)|)|S|SCHWA|T|TURNED W BELOW|
V|W( BELOW|)|X|Z))|LEFT ((ANGLE|ARROW|ARROWHEAD|HALF RING|RIGHT ARROW) (ABOVE|BELOW)|HARPOON ABOVE|
PARENTHESIS (ABOVE|BELOW) LEFT|TACK BELOW)|LEFTWARDS (ARROW OVERLAY|HARPOON WITH BARB DOWNWARDS)|
LIGATURE (LEFT|RIGHT) HALF( BELOW|)|LONG (DOUBLE SOLIDUS|SOLIDUS|STROKE|VERTICAL LINE) OVERLAY|
LOW LINE|MACRON( (BELOW|(LEFT|RIGHT) HALF( BELOW|))|-(ACUTE|BREVE|GRAVE)|)|OGONEK( ABOVE|)|
OLD PERMIC LETTER (AN|DOI|NENOE|SII|ZATA)|OVERLINE|(PARENTHESES|RING) (ABOVE|BELOW|OVERLAY)|
REVERSE SOLIDUS OVERLAY|RIGHT ((ARROW|HALF RING) (ABOVE|BELOW)|ARROWHEAD (ABOVE|AND (DOWN|
UP) ARROWHEAD BELOW|BELOW)|HARPOON ABOVE|PARENTHESIS (ABOVE|BELOW) RIGHT|TACK BELOW)|
RIGHTWARDS HARPOON WITH BARB DOWNWARDS|SHORT (SOLIDUS|STROKE|VERTICAL LINE) OVERLAY|SQUARE (BELOW|
BRACKETS ABOVE)|TILDE( (BELOW|(LEFT|RIGHT) HALF BELOW|OVERLAY)|)|TRIPLE (ACUTE ACCENT|DOT|
UNDERDOT)|VERTICAL (LINE (ABOVE|BELOW)|TILDE)|WIDE (BRIDGE ABOVE|INVERTED BRIDGE BELOW)|X( (ABOVE|
BELOW)|-X BELOW))|COMET|COMMA|COMMERCIAL (AT|MINUS SIGN)|COMPASS|COMPLEMENT|COMPRESSION|(CONFETTI|
CRYSTAL|FIELD HOCKEY STICK AND|LACROSSE STICK AND|SOCCER|TABLE TENNIS PADDLE AND|
TENNIS RACQUET AND) BALL|(CONGRUENT WITH DOT|ON WITH EXCLAMATION MARK WITH LEFT RIGHT ARROW|
SOON WITH RIGHTWARDS ARROW) ABOVE|CONICAL TAPER|CONJUNCTION|CONSTRUCTION (SIGN|WORKER)|
CONTAINS (AS (MEMBER|NORMAL SUBGROUP( OR EQUAL TO|))|WITH ((LONG|
VERTICAL BAR AT END OF) HORIZONTAL STROKE|OVERBAR))|(CONTOUR|FINITE PART|SURFACE|VOLUME) INTEGRAL|
CONTROL (KNOBS|SEQUENCE INTRODUCER)|(CONVENIENCE|DEPARTMENT) STORE|(COOKED|CURRY AND) RICE|COOKIE|
COOKING|COPTIC ((CAPITAL|SMALL) LETTER ((AKHMIMIC|BOHAIRIC) KHEI|ALFA|CROSSED SHEI|
CRYPTOGRAMMIC (EIE|GANGIA|NI|SHEI)|DALDA|DEI|DIALECT-P (ALEF|HORI|KAPA|NI)|EIE|FEI|FI|GAMMA|GANGIA|
HATE|HORI|IAUDA|KAPA|KHEI|KHI|KSI|L-SHAPED HA|LAULA|MI|NI|O|OLD (COPTIC (AIN|DJA|ESH|GANGIA|HA|HAT|
HEI|HORI|OOU|SHEI|SHIMA)|NUBIAN (NGI|NYI|SHIMA|WAU))|OOU|PI|PSI|RO|SAMPI|SHEI|SHIMA|SIMA|SOU|TAU|
THETHE|UA|VIDA|ZATA)|COMBINING (NI ABOVE|SPIRITUS (ASPER|LENIS))|EPACT (DIGIT (EIGHT|FIVE|FOUR|
NINE|ONE|SEVEN|SIX|THREE|TWO)|NUMBER ((EIGHT|FIVE|FOUR|NINE|ONE|SEVEN|SIX|THREE|TWO) HUNDRED|
EIGHTY|FIFTY|FORTY|NINETY|SEVENTY|SIXTY|TEN|THIRTY|TWENTY)|THOUSANDS MARK)|FRACTION ONE HALF|
FULL STOP|MORPHOLOGICAL DIVIDER|OLD NUBIAN ((DIRECT|INDIRECT) QUESTION MARK|FULL STOP|
VERSE DIVIDER)|SYMBOL (KAI|(KHI|MI|PI|TAU) RO|SHIMA SIMA|STAUROS))|CORAL|CORNISH VERSE DIVIDER|
(CORRESPONDS|EQUIANGULAR|PROPORTIONAL|STRICTLY EQUIVALENT) TO|(COUCH AND|DIYA) LAMP|COUNTERBORE|
COUNTERSINK|COUNTING ROD (TENS|UNIT) DIGIT (EIGHT|FIVE|FOUR|NINE|ONE|SEVEN|SIX|THREE|TWO)|(COW|DOG|
DRAGON|MONKEY|RABBIT|TIGER)( FACE|)|CR|CRAB|(CREDIT|IDENTIFICATION) CARD|CRESCENT MOON|
CRICKET( BAT AND BALL|)|CROCODILE|CROISSANT|CROSS (MARK|OF (JERUSALEM|LORRAINE)|PATTY WITH (LEFT|
RIGHT) CROSSBAR|POMMEE( WITH HALF-CIRCLE BELOW|))|CROSSED (FLAGS|
NEGATIVE SQUARED LATIN CAPITAL LETTER P|SWORDS)|CROSSING LANES|CROWN|CRUTCH|(CRYING|POUTING|
WEARY) (CAT FACE|FACE)|CSI|(CUBE|FOURTH) ROOT|CUCUMBER|CUNEIFORM( (NUMERIC SIGN (EIGHT (ASH|DISH|
GESH2|SHAR2|U( VARIANT FORM|)|VARIANT FORM USSU(3|))|ELAMITE (FIFTY|FORTY|ONE THIRD|TWO THIRDS)|
FIVE (ASH( TENU|)|(BAN2|U)( VARIANT FORM|)|BURU|DISH|GESH2|GESHU|SHAR2|SHARU|SIXTHS DISH)|
FOUR (ASH( TENU|)|(BAN2|U)( VARIANT FORM|)|BURU|DISH|GESH2|GESHU|SHAR2|SHARU|VARIANT FORM LIMMU(4|
 (A|B)|))|NIGIDAESH|NIGIDAMIN|NINE (ASH|DISH|GESH2|SHAR2|U( VARIANT FORM|)|VARIANT FORM ILIMMU(3|4|
 A|))|OLD ASSYRIAN ONE (QUARTER|SIXTH)|ONE (BAN2|BURU|EIGHTH ASH|ESHE3|GESH2|GESHU|HALF GUR|
QUARTER (ASH|GUR)|SHARU|THIRD (DISH|VARIANT FORM A))|SEVEN (ASH|DISH|GESH2|SHAR2|U( VARIANT FORM|)|
VARIANT FORM IMIN(3| (A|B)))|SHAR2 TIMES GAL PLUS (DISH|MIN)|SIX (ASH( TENU|)|DISH|GESH2|SHAR2|
U( VARIANT FORM|)|VARIANT FORM ASH9)|THREE (ASH( TENU|)|BAN2|(BURU|SHAR2|SHARU)( VARIANT FORM|)|
DISH|GESH2|GESHU|VARIANT FORM ESH(16|21))|TWO (ASH( TENU|)|BAN2|BURU|ESHE3|GESH2|GESHU|SHAR2|SHARU|
THIRDS (DISH|VARIANT FORM A)))|PUNCTUATION SIGN (DIAGONAL (COLON|QUADCOLON|TRICOLON)|
OLD ASSYRIAN WORD DIVIDER|VERTICAL COLON)|SIGN( (A(2| TIMES (A|BAD|GAN2 TENU|HA|IGI|LAGAR GUNU|
MUSH|SAG)|)|AB( (GUNU|TIMES (ASH2|(DUN3|IGI) GUNU|GAL|GAN2 TENU|HA|IMIN|LAGAB|NUN( TENU|)|SHESH|
SHU2|U PLUS U PLUS U))|2( TIMES (A|BALAG|GAN2 TENU|ME PLUS EN|SHA3|TAK4)|)|)|AD( TIMES ESH2|)|
AK( TIMES (ERIN2|SHITA PLUS GISH)|)|AL( TIMES (AL|DIM2|GISH|HA|KAD3|KI|SHE|USH)|)|ALAN|ALEPH|
AMAR( TIMES (KUG|SHE)|)|AN( (OVER AN|PLUS NAGA (OPPOSING AN PLUS NAGA|SQUARED)|THREE TIMES)|)|
ANSHE|APIN|ARAD( TIMES KUR|)|ARKAB|(ASAL|BARA|DUR|HUL|KESH|KUSHU|LIMMU|MURGU|PIR|SANGA|SHAR|SIK|
TUG|ZE|ZIZ)2|ASH(2| ((KABA|ZIDA) TENU|OVER ASH (OVER ASH( CROSSING ASH OVER ASH OVER ASH|)|
TUG2 OVER TUG2 TUG2 OVER TUG2 PAP))|)|ASHGAB|BA|BAD( TIMES DISH TENU|)|BAG3|BAHAR2( TIMES (AB2|NI|
ZA)|)|BAL( OVER BAL|)|BALAG|BAR|BI( TIMES (A|GAR|IGI GUNU)|)|BU( (CROSSING BU|OVER BU (AB|
TIMES NA2|UN))|)|BULUG( OVER BULUG|)|(BUR|MASH|SHESH|SUD)(2|)|DA( TIMES TAK4|)|DAG(3|
 (KISIM5 TIMES (A PLUS MASH|AMAR|BALAG|BI|GA( PLUS MASH|)|GI|GIR2|GUD|HA|IR( PLUS LU|)|KAK|LA|
LU( PLUS MASH2|)|LUM|NE|PAP PLUS PAP|SI|TAK4|U2 PLUS (GIR2|MASH)|USH)|TIMES KUR)|)|DAM|DAR|DARA(3|
4)|DI|DIB|DIM( TIMES (IGI|SHE|U U U)|2( TIMES UD|)|)|DIN( KASKAL U GUNU DISH|)|DISH( PLUS SHU|)|
DU( (GUNU|OVER DU|SHESHIG)|)|DUB(2| TIMES (ESH2|SHE)|)|DUG( TIMES (ANSHE|ASH( AT LEFT|)|DIN|DUN|
ERIN2|GA|GI|(GIR2|IGI|SI) GUNU|GISH|HA|HI|KASKAL|KUR|KUSHU2( PLUS KASKAL|)|LAK-020|LAM( TIMES KUR|
)|LUH PLUS GISH|MASH|MES|MI|NI|PI|SHE)|)|DUGUD|DUH|DUN(4|3( GUNU( GUNU|)|)|)|
E( (OVER E NUN OVER NUN|TIMES PAP)|2( TIMES (A PLUS HA PLUS DA|GAR|KUR|MI|PAP|SAL|SHE|U)|)|)|EDIN|
EGIR|EL|EN( (CROSSING EN|OPPOSING EN|SQUARED|TIMES (GAN2( TENU|)|ME))|)|EREN|ERIN2( X|)|
ESH2( CROSSING ESH2|)|EZEN( (SHESHIG TIMES (ASH|HI|IGI GUNU|LA|LAL|ME|MES|SU)|
TIMES (A( PLUS LAL( TIMES LAL|)|)|AN|BAD|(DUN3 GUNU|HA)( GUNU|)|GUD|IGI GUNU|KASKAL( SQUARED|)|KU3|
LA|LAL TIMES LAL|LI|LU|SHE|SU|U2|UD))|)|GA( GUNU|2( (OVER GA2|TIMES (A PLUS (DA PLUS HA|HA|IGI)|
AB2 TENU PLUS TAB|AN( PLUS KAK PLUS A|)|ASH(2( PLUS GAL|)|)|BAD|BAHAR2|BAR PLUS RA|BUR( PLUS RA|)|
DA|DI|DIM (GUNU|TIMES SHE)|DUB|DUG TIMES (IGI GUNU|KASKAL)|(EL|HAL)( PLUS LA|)|EN( TIMES GAN2 TENU|
)|EREN|GA|GAN2 TENU|GAR( PLUS (DI|NE)|)|GI(4( PLUS A|)|)|GIR2 PLUS SU|HA PLUS (A|LU PLUS ESH2)|
HI PLUS LI|HUB2|IGI GUNU|ISH PLUS HU PLUS ASH|KAK|KASKAL|KID( PLUS LAL|)|KU3 PLUS AN|
KUSHU2 PLUS KASKAL|LA|LAM( TIMES KUR|)|LUH|ME PLUS EN|MI|MUSH|NE( PLUS (E2|GI)|)|NUN( OVER NUN|)|
PA|SAL|SAR|SHE( PLUS TUR|)|SHID|SHIM|SUM|TAK4|U|UD( PLUS DU|)|ZIZ2))|)|)|GABA( (CROSSING GABA|
ROTATED NINETY DEGREES)|)|GAD( OVER GAD GAR OVER GAR|)|GAL( GAD OVER GAD GAR OVER GAR|)|GALAM|GAM|
GAN(2( ((CROSSING|OVER) GAN2|TENU)|)|)|GAR(3|)|GASHAN|GE22|GESHTIN( TIMES (KUR|U)|)|
GI( (CROSSING GI|TIMES (E|U))|4( (CROSSING GI4|OVER GI4)|)|)|GIDIM|GIG|GIR(2( GUNU|)|3( TIMES ((A|
LU) PLUS IGI|GAN2 TENU|IGI|PA)|))|GISAL|GISH( (CROSSING GISH|TENU|TIMES (BAD|GISH CROSSING GISH|
TAK4))|)|GU( CROSSING GU|2( (GUNU|TIMES (IGI GUNU|KAK( TIMES IGI GUNU|)|NUN|SAL PLUS TUG2))|)|)|
GUD( (OVER GUD LUGAL|PLUS GISH TIMES TAK4|TIMES (A PLUS KUR|KUR))|)|GUL|GUM( TIMES SHE|)|GUR(7|)|
GURUN|GURUSH|HA( (GUNU|TENU( GUNU|))|)|HAL|HI( TIMES (ASH(2| OVER HI TIMES ASH|)|BAD|DISH|GAD|KIN|
NUN|SHE|U)|)|HU|HUB2( TIMES (AN|HAL|KASKAL|LISH|UD)|)|HUSH|I( A|)|IB|IDIM( OVER IDIM (BUR|SQUARED)|
)|IG|IGI( (DIB|GUNU|OVER IGI SHIR OVER SHIR UD OVER UD|RI)|)|IL(2| TIMES GAN2 TENU|)|
IM( (CROSSING IM|OPPOSING IM|SQUARED|TIMES TAK4)|)|IMIN|IN|IR|ISH|KA( TIMES (A|AD( PLUS KU3|)|
ANSHE|ASH(2|3)|BAD|BALAG|BAR|BI|BU|ERIN2|ESH2|GA|GAL|GAN2 TENU|GAR( PLUS SHA3 PLUS A|)|GI|GIR2|
GISH( (CROSSING GISH|PLUS SAR)|)|GU|GUD|GUR7|HI TIMES ASH2|IGI|IM|KA|KAK|KI|KID|LI|LU|LUM|
ME( PLUS (DU|GI|TE)|)|MI( PLUS NUNUZ|)|NE|NUN|PA|PI|RU|SA|SAR|SHA|SHE|SHID|SHU|SHUL|SIG|SUHUR|TAR|
TU|U(2| U U|)|UD|UMUM TIMES PA|UR(2|)|USH|ZI)|2( CROSSING KA2|)|)|KAB|KAD(2~4|5( OVER KAD5|))|
KAK( TIMES IGI GUNU|)|KAL( (CROSSING KAL|TIMES BAD)|)|KAM(2|4)|KAP ELAMITE|KASKAL( (LAGAB|
OVER KASKAL LAGAB) TIMES U OVER LAGAB TIMES U|)|KI( TIMES (BAD|U|UD)|)|KID|KIN|KISAL|KISH|
KISIM5( OVER KISIM5|)|KU(3|7| OVER HI TIMES ASH2 KU OVER HI TIMES ASH2|4( VARIANT FORM|)|)|(KUL|
MUG|TE|UN)( GUNU|)|KUN|KUR( OPPOSING KUR|)|KWU318|LA|LAGAB( (SQUARED|TIMES (A( PLUS (DA PLUS HA|
GAR|LAL)|)|AL|AN|ASH ZIDA TENU|BAD|BI|DAR|EN|GA|GAR|GI|GUD( PLUS GUD|)|HA|HAL|HI TIMES NUN|
IGI GUNU|IM( PLUS (HA|LU)|)|KI|KIN|KU3|KUL( PLUS HI PLUS A|)|LAGAB|LISH|LU|LUL|ME( PLUS EN|)|MUSH|
NE|SHE PLUS SUM|SHITA PLUS GISH (PLUS ERIN2|TENU)|SHU2( PLUS SHU2|)|SUM|TAG|TAK4|
TE PLUS A PLUS SU PLUS NA|U( PLUS (A|U PLUS U)|2 PLUS ASH|)|UD|USH|ZU OVER ZU))|)|
LAGAR( (GUNU( OVER LAGAR GUNU SHE|)|TIMES SHE( PLUS SUM|))|)|LAHSHU|LAK-(003|021|025|030|050|051|
062|080|092|130|142|210|219|220|225|228|238|265|266|343|347|348|383|384|390|441|450|457|470|483|
490|492|493|495|550|608|636|724|749|079 OVER LAK-079 GUNU|081 OVER LAK-081|449( TIMES (GU|IGI|
PAP PLUS (LU3|PAP PLUS LU3)|U2 PLUS BA)|)|617( TIMES (ASH|BAD|DUN3 GUNU GUNU|KU3|LA|TAR|TE|U2|UD|
URUDA)|)|648( TIMES (DUB|GA|IGI( GUNU|)|NI|PAP PLUS PAP PLUS LU3|SHESH PLUS KI|UD|URUDA)|))|
LAL( TIMES LAL|)|LAM( TIMES KUR( PLUS RU|)|)|LI|LIL|LISH|LU(3| TIMES BAD|2( (CROSSING LU2|
GUNU TIMES ASH|OPPOSING LU2|SHESHIG( TIMES BAD|)|SQUARED|TENU|TIMES (AL|BAD|DISH|ESH2( (PLUS LAL|
TENU)|)|GAN2 TENU|HAL|HI TIMES BAD|IM|KAD(2|3( PLUS ASH|))|KI|(LA|SI) PLUS ASH|LAGAB|ME PLUS EN|NE|
NU|PAP( PLUS PAP PLUS LU3|)|SHU|SIK2 PLUS BU|TAK4|TUG2))|)|)|LUGAL( ((OPPOSING|OVER) LUGAL|
SHESHIG)|)|LUH|LUL|LUM( OVER LUM( GAR OVER GAR|)|)|MA(2| (GUNU|TIMES TAK4)|)|MAH|MAR|ME|MES|MESH|
MI( PLUS ZA7|)|MIN|MU( OVER MU|)|MUNSUB|MUSH( (CROSSING MUSH|OVER MUSH( TIMES (A PLUS NA|GA|KAK)|)|
TIMES (A|KUR|ZA))|3( (GUNU|TIMES (A( PLUS DI|)|DI|ZA))|)|)|NA(2|4|)|NAGA( (INVERTED|OPPOSING NAGA|
TIMES SHU TENU)|)|NAGAR|NAM(2| NUTILLU|)|NE( (SHESHIG|TIMES (A|UD))|)|NI(2| TIMES E|)|
NIM( TIMES (GAN|GAR PLUS GAN)2 TENU|)|NIN(9|)|NINDA2( TIMES (AN|ASH( PLUS ASH|)|BAL|DIM GUNU|GI|
GISH|GUD|GUL|HI|KESH2|LAK-050|MASH|ME PLUS GAN2 TENU|NE|NUN|PAP PLUS PAP|SHE( PLUS (A AN|
ASH( PLUS ASH|))|)|U( PLUS U|2 PLUS ASH|)|URUDA|USH)|)|NISAG|NU(11( (OVER NU11 BUR OVER BUR|
ROTATED NINETY DEGREES|TENU)|)|)|NUN( (CROSSING NUN( LAGAR OVER LAGAR|)|LAGAR TIMES (GAR|MASH|
SAL( OVER NUN LAGAR TIMES SAL|)|USH)|OVER NUN|TENU)|)|NUNUZ( (AB2 TIMES (ASHGAB|BI|DUG|GUD|
IGI GUNU|KAD3|LA|NE|SILA3|U2)|KISIM5 TIMES BI( U|))|)|PA|PAD|PAN|PAP|PESH2( ASTERISK|)|
PI( (CROSSING PI|TIMES (A|AB|BI|BU|E|I|IB|U(2|)))|)|PIRIG( (OPPOSING PIRIG|TIMES (KAL|UD|ZA))|)|RA|
RAB|RI|RU|SA|SAG( (GUNU( TIMES HA|)|NUTILLU|OVER SAG|TIMES (A|DU|DUB|EN|HA|IGI GUNU|KAK|KUR|LUM|MI|
NUN|SAL|SHE AT LEFT|SHID|TAB|TAK4|U2|UB|UM|UR|USH))|)|SAL( LAGAB TIMES ASH2|)|SAR|SHA(3( TIMES (A|
BAD|GISH|NE|SHU2|TUR|U( PLUS A|))|)|6( TENU|)|)|SHAB6|SHE( (HU|OVER SHE( (GAD OVER GAD|
TAB OVER TAB) GAR OVER GAR|)|PLUS (HUB2|NAM2|SAR))|)|SHEG9|SHEN|SHESHLAM|SHID( TIMES (A|IM)|)|
SHIM( TIMES (A|BAL|BULUG|DIN|GAR|IGI( GUNU|)|KUSHU2|LUL|MUG|SAL)|)|SHINIG|
SHIR( (OVER SHIR BUR OVER BUR|TENU)|)|SHITA|SHU( OVER INVERTED SHU|2( PLUS (DUG TIMES NI|
E2 TIMES AN)|)|)|SHUBUR|SI( (GUNU|TIMES TAK4)|)|SIG(4( OVER SIG4 SHU2|)|)|SILA3|SU( OVER SU|)|
SUHUR|SUM|SUMASH|SUR(9|)|TA( (ASTERISK|GUNU|TIMES (HI|MI))|)|
TAB( (OVER TAB NI OVER NI DISH OVER DISH|SQUARED)|)|TAG( TIMES (BI|GUD|SHE|SHU|TUG2|UD)|)|
TAK4( PLUS SAG|)|TAR|TI(2| TENU|)|TIL|TIR( (OVER TIR( GAD OVER GAD GAR OVER GAR|)|TIMES TAK4)|)|TU|
TUK|TUM( TIMES (GAN2 TENU|THREE DISH)|)|TUR( OVER TUR ZA OVER ZA|)|U(2| (GUD|
OVER U (PA OVER PA GAR OVER GAR|SUR OVER SUR|U REVERSED OVER U REVERSED)|U( U|))|)|UB|UD( (GUNU|
KUSHU2|SHESHIG( TIMES BAD|)|TIMES (BAD|MI|U PLUS U PLUS U( GUNU|)))|)|UDUG|UM( TIMES (LAGAB|
ME( PLUS DA|)|SHA3|U)|)|UMBIN|UMUM( TIMES (KASKAL|PA)|)|UR(4| (CROSSING UR|SHESHIG)|2( (INVERTED|
TIMES (A PLUS (HA|NA)|AL|HA|NUN|U2( PLUS (ASH|BI)|)|UD))|)|)|URI(3|)|URU( TIMES (A|ASHGAB|BAR|
DARA3|DUN|GA|GAL|GAN2 TENU|GAR|GU|HA|IGI|IM|ISH|KI|LAK-668|LU3|LUM|MIN|PA|SHE|SIG4|TU|U PLUS GUD|
UD|URUDA)|)|URUDA( TIMES U|)|USH(2| TIMES (A|KU|KUR|TAK4)|)|USHUMX|USHX|UTUKI|UZ3( TIMES KASKAL|)|
UZU|ZA(7| (SQUARED TIMES KUR|TENU)|)|ZAG|ZAMX|ZI(3| OVER ZI|)|ZIB( KABA TENU|)|ZIG|
ZU( OVER ZU PLUS SAR|5( TIMES (A|THREE DISH TENU)|)|)|ZUBUR|ZUM))))|CUP (ON BLACK SQUARE|
WITH STRAW)|CUPCAKE|CUPIDO|(CURLING|GEM) STONE|CURLY (BRACKET EXTENSION|LOGICAL (AND|OR)|LOOP)|
CURRENCY (EXCHANGE|SIGN)|(CURVED STEM PARAGRAPH SIGN|LIGATURE OPEN ET|SWASH AMPERSAND) ORNAMENT|
CUSTARD|CUSTOMS|CUT OF MEAT|CYCLONE|CYLINDRICITY|CYPRIOT SYLLABLE (A|E|I|JA|JO|KA|KE|KI|KO|KU|LA|
LE|LI|LO|LU|MA|ME|MI|MO|MU|NA|NE|NI|NO|NU|O|PA|PE|PI|PO|PU|RA|RE|RI|RO|RU|SA|SE|SI|SO|SU|TA|TE|TI|
TO|TU|U|WA|WE|WI|WO|XA|XE|ZA|ZO)|CYPRO(-(MINOAN( (SIGN( (CM(001|002|004~011|013|015|017|019|021|
023~030|033~041|044|046|047|049~056|058~064|066~074|076|078~092|094~105|107~110|112|114|301|302|
012(B|)|075(B|))))))))|CYRILLIC (CAPITAL (LETTER (A( WITH (BREVE|DIAERESIS)|)|
ABKHASIAN (CHE( WITH DESCENDER|)|DZE|HA)|ALEUT KA|(BARRED O|E|O|SCHWA)( WITH DIAERESIS|)|
BASHKIR KA|BE|(BIG|BLENDED|CLOSED LITTLE|LITTLE) YUS|BINOCULAR O|(BROAD|ROUND) OMEGA|
BYELORUSSIAN-UKRAINIAN I|CCHE|CHE( WITH (DESCENDER|DIAERESIS|VERTICAL STROKE)|)|CROSSED O|DCHE|DE|
DJE|DJERV|DOUBLE (MONOCULAR O|O)|DWE|DZE|DZELO|DZHE|DZWE|DZZE|DZZHE|EF|EL( WITH (DESCENDER|HOOK|
MIDDLE HOOK|TAIL)|)|EM( WITH TAIL|)|EN( WITH (DESCENDER|HOOK|(LEFT|MIDDLE) HOOK|TAIL)|)|
ER( WITH TICK|)|(ES|SHHA)( WITH DESCENDER|)|FITA|GHE( WITH (DESCENDER|MIDDLE HOOK|STROKE( AND HOOK|
)|UPTURN)|)|GJE|HA( WITH (DESCENDER|HOOK|STROKE)|)|(HARD|SEMISOFT) SIGN|HWE|I( WITH (DIAERESIS|
GRAVE|MACRON)|)|IE( WITH (BREVE|GRAVE)|)|IO|IOTA|IOTIFIED (A|(BIG|CLOSED LITTLE|LITTLE) YUS|E|YAT)|
IZHITSA( WITH DOUBLE GRAVE ACCENT|)|JE|KA( WITH (DESCENDER|HOOK|STROKE|VERTICAL STROKE)|)|
KHAKASSIAN CHE|KJE|KOMI (DE|DJE|DZJE|LJE|NJE|SJE|TJE|ZJE)|KOPPA|KSI|LHA|LJE|MONOCULAR O|
MONOGRAPH UK|NEUTRAL YER|NJE|OMEGA( WITH TITLO|)|OT|(PE|TE)( WITH (DESCENDER|MIDDLE HOOK)|)|PSI|QA|
REVERSED (DZE|TSE|YU|ZE)|RHA|SHA|SHCHA|SHORT (I( WITH TAIL|)|U)|SHWE|SOFT (DE|EL|EM|SIGN)|
STRAIGHT U( WITH STROKE|)|TCHE|TSE|TSHE|TSSE|TSWE|TWE|U( WITH (DIAERESIS|DOUBLE ACUTE|MACRON)|)|UK|
UKRAINIAN IE|VE|WE|YA|YAE|YAT|YERU( WITH (BACK YER|DIAERESIS)|)|YI|YN|YU|ZE( WITH (DESCENDER|
DIAERESIS)|)|ZEMLYA|ZHE( WITH (BREVE|DESCENDER|DIAERESIS)|)|ZHWE)|LIGATURE (A IE|EN GHE|TE TSE))|
KAVYKA|LETTER (MULTIOCULAR O|PALOCHKA|SMALL CAPITAL EL)|PAYEROK|SMALL (LETTER (A( WITH (BREVE|
DIAERESIS)|)|ABKHASIAN (CHE( WITH DESCENDER|)|DZE|HA)|ALEUT KA|(BARRED O|E|O|
SCHWA)( WITH DIAERESIS|)|BASHKIR KA|BE|(BIG|BLENDED|CLOSED LITTLE|LITTLE) YUS|(BINOCULAR|CROSSED|
MONOCULAR|NARROW) O|(BROAD|ROUND) OMEGA|BYELORUSSIAN-UKRAINIAN I|CCHE|CHE( WITH (DESCENDER|
DIAERESIS|VERTICAL STROKE)|)|DCHE|DE|DJE|DJERV|DOUBLE (MONOCULAR O|O)|DWE|DZE|DZELO|DZHE|DZWE|DZZE|
DZZHE|EF|EL( WITH (DESCENDER|HOOK|MIDDLE HOOK|TAIL)|)|EM( WITH TAIL|)|EN( WITH (DESCENDER|HOOK|
(LEFT|MIDDLE) HOOK|TAIL)|)|ER( WITH TICK|)|(ES|SHHA)( WITH DESCENDER|)|FITA|GHE( WITH (DESCENDER|
MIDDLE HOOK|STROKE( AND HOOK|)|UPTURN)|)|GJE|HA( WITH (DESCENDER|HOOK|STROKE)|)|(HARD|
SEMISOFT) SIGN|HWE|I( WITH (DIAERESIS|GRAVE|MACRON)|)|IE( WITH (BREVE|GRAVE)|)|IO|IOTA|IOTIFIED (A|
(BIG|CLOSED LITTLE|LITTLE) YUS|E|YAT)|IZHITSA( WITH DOUBLE GRAVE ACCENT|)|JE|KA( WITH (DESCENDER|
HOOK|STROKE|VERTICAL STROKE)|)|KHAKASSIAN CHE|KJE|KOMI (DE|DJE|DZJE|LJE|NJE|SJE|TJE|ZJE)|KOPPA|KSI|
LHA|LJE|LONG-LEGGED DE|MONOGRAPH UK|NEUTRAL YER|NJE|OMEGA( WITH TITLO|)|OT|PALOCHKA|(PE|
TE)( WITH (DESCENDER|MIDDLE HOOK)|)|PSI|QA|REVERSED (DZE|TSE|YU|ZE)|RHA|ROUNDED VE|SHA|SHCHA|
SHORT (I( WITH TAIL|)|U)|SHWE|SOFT (DE|EL|EM|SIGN)|STRAIGHT U( WITH STROKE|)|TALL (HARD SIGN|TE|
YAT)|TCHE|THREE-LEGGED TE|TSE|TSHE|TSSE|TSWE|TWE|U( WITH (DIAERESIS|DOUBLE ACUTE|MACRON)|)|UK|
UKRAINIAN IE|UNBLENDED UK|VE|WE|WIDE ES|YA|YAE|YAT|YERU( WITH (BACK YER|DIAERESIS)|)|YI|YN|YU|
ZE( WITH (DESCENDER|DIAERESIS)|)|ZEMLYA|ZHE( WITH (BREVE|DESCENDER|DIAERESIS)|)|ZHWE)|
LIGATURE (A IE|EN GHE|TE TSE))|THOUSANDS SIGN)|DAGGER( (KNIFE|WITH (LEFT|RIGHT) GUARD)|)|DANCER|
DANGO|DARK (SHADE|SUNGLASSES)|DASH (SYMBOL|WITH LEFT UPTURN)|DASHED (LOW LINE|OVERLINE|
TRIANGLE-HEADED RIGHTWARDS ARROW)|DATA LINK ESCAPE|(DC|FVS)(1~4)|DCS|DECIMAL (EXPONENT|
SEPARATOR KEY) SYMBOL|DEER|DEGREE (CELSIUS|FAHRENHEIT|SIGN)|DEL|DELETE|(DELIVERY|PICKUP) TRUCK|
DENTISTRY SYMBOL LIGHT ((DOWN|UP) AND HORIZONTAL( WITH (CIRCLE|TRIANGLE|WAVE)|)|
VERTICAL (AND ((BOTTOM|TOP) (LEFT|RIGHT)|WAVE)|WITH (CIRCLE|TRIANGLE)))|DESERET (CAPITAL|
SMALL) LETTER (AY|BEE|CHEE|DEE|EF|EL|EM|EN|ENG|ER|ES|ESH|ETH|EW|GAY|H|JEE|KAY|(LONG|SHORT) (A|AH|E|
I|O|OO)|OI|OW|PEE|TEE|THEE|VEE|WU|YEE|ZEE|ZHEE)|DESERT( ISLAND|)|DESKTOP (COMPUTER|WINDOW)|
DEVANAGARI (ABBREVIATION SIGN|(ACUTE|GRAVE) ACCENT|CARET|DANDA|DIGIT (EIGHT|FIVE|FOUR|NINE|ONE|
SEVEN|SIX|THREE|TWO|ZERO)|DOUBLE DANDA|GAP FILLER|HEADSTROKE|JAIN OM|LETTER (A|AA|AI|AU|AW|AY|BA|
BBA|BHA|CA|(CANDRA|SHORT) (A|E|O)|CHA|DA|DDA|DDDA|DDDHA|DDHA|DHA|E|FA|GA|GGA|GHA|GHHA|GLOTTAL STOP|
HA|HEAVY YA|I|II|JA|JHA|JJA|KA|KHA|KHHA|LA|LLA|LLLA|MA|MARWARI DDA|NA|NGA|NNA|NNNA|NYA|O|OE|OOE|PA|
PHA|QA|RA|RHA|RRA|SA|SHA|SSA|TA|THA|TTA|TTHA|U|UE|UU|UUE|VA|VOCALIC (L|LL|R|RR)|YA|YYA|ZA|ZHA)|OM|
SIGN (ANUSVARA|AVAGRAHA|CANDRABINDU( (AVAGRAHA|THREE|TWO|VIRAMA)|)|DOUBLE CANDRABINDU VIRAMA|
HIGH SPACING DOT|(INVERTED|SPACING) CANDRABINDU|NUKTA|PUSHPIKA|SIDDHAM|VIRAMA|VISARGA)|
STRESS SIGN (ANUDATTA|UDATTA)|VOWEL SIGN (AA|AI|AU|AW|AY|CANDRA (E|LONG E|O)|E|I|II|O|OE|OOE|
PRISHTHAMATRA E|SHORT (E|O)|U|UE|UU|UUE|VOCALIC (L|LL|R|RR)))|DEVICE CONTROL (FOUR|ONE|STRING|
THREE|TWO)|DIAERESIS|DIAMOND (OPERATOR|SHAPE WITH A DOT INSIDE|TARGET|WITH (BOTTOM|LEFT|RIGHT|
TOP) HALF BLACK)|DIE( (FACE(-(1~6))))|(DIESEL|STEAM) LOCOMOTIVE|DIFFERENCE BETWEEN|DIGIT (EIGHT|
FIVE|FOUR|NINE|ONE|SEVEN|SIX|THREE|TWO|ZERO)( (COMMA|FULL STOP)|)|DIGRAM FOR (EARTH|
EARTHLY (HEAVEN|HUMAN)|(GREATER|LESSER) (YANG|YIN)|(HEAVENLY|HUMAN) EARTH)|DIMENSION ORIGIN|
DINGBAT (CIRCLED SANS-SERIF (DIGIT (EIGHT|FIVE|FOUR|NINE|ONE|SEVEN|SIX|THREE|TWO|ZERO)|NUMBER TEN)|
NEGATIVE CIRCLED (DIGIT (EIGHT|FIVE|FOUR|NINE|ONE|SEVEN|SIX|THREE|TWO)|NUMBER TEN|
SANS-SERIF (DIGIT (EIGHT|FIVE|FOUR|NINE|ONE|SEVEN|SIX|THREE|TWO|ZERO)|NUMBER TEN)))|
DIRECT (CURRENT SYMBOL FORM TWO|HIT)|DISABLED CAR|DISAPPOINTED (BUT RELIEVED FACE|FACE)|
DIVES AKURU (DIGIT (EIGHT|FIVE|FOUR|NINE|ONE|SEVEN|SIX|THREE|TWO|ZERO)|DOUBLE DANDA|
END OF TEXT MARK|GAP FILLER|INITIAL RA|LETTER (A|AA|BA|BHA|CA|CHA|DA|DDA|DDHA|DHA|E|GA|GHA|HA|I|II|
JA|KA|KHA|LA|LLA|MA|NA|NGA|NNA|NYA|O|PA|PHA|RA|SA|SHA|SSA|TA|THA|TTA|U|UU|VA|YA|YYA|ZA)|MEDIAL (RA|
YA)|PREFIXED NASAL SIGN|SIGN (ANUSVARA|CANDRABINDU|HALANTA|NUKTA)|VIRAMA|VOWEL SIGN (AA|AI|E|I|II|
O|U|UU))|DIVIDES|DIVING MASK|DIVISION (SIGN|SLASH|TIMES)|DIZZY (FACE|SYMBOL)|DLE|DNA DOUBLE HELIX|
DOCUMENT( WITH (PICTURE|TEXT( AND PICTURE|))|)|DODO|DOES NOT (CONTAIN AS (MEMBER|
NORMAL SUBGROUP( OR EQUAL|))|DIVIDE( WITH REVERSED NEGATION SLASH|)|FORCE|(PRECEDE|
SUCCEED)( OR EQUAL|)|PROVE)|DOGRA (ABBREVIATION SIGN|LETTER (A|AA|AI|AU|BA|BHA|CA|CHA|DA|DDA|DDHA|
DHA|E|GA|GHA|HA|I|II|JA|JHA|KA|KHA|LA|MA|NA|NGA|NNA|NYA|O|PA|PHA|RA|RRA|SA|SHA|SSA|TA|THA|TTA|TTHA|
U|UU|VA|YA)|SIGN (ANUSVARA|NUKTA|VIRAMA|VISARGA)|VOWEL SIGN (AA|AI|AU|E|I|II|O|U|UU|VOCALIC (R|
RR)))|DOLPHIN|DOMINO( (TILE( ((HORIZONTAL|VERTICAL)( BACK|-((00~06)(-(00~06))))))))|DOOR|
DOT (ABOVE|MINUS|OPERATOR|PLUS)|DOTTED (CIRCLE|CROSS|FENCE|LINE FACE|OBELOS|RIGHT-POINTING ANGLE|
SOLIDUS|SQUARE|TRANSPOSITION MARKER)|DOUBLE( (ACUTE ACCENT|CIRCLED (DIGIT (EIGHT|FIVE|FOUR|NINE|
ONE|SEVEN|SIX|THREE|TWO)|NUMBER TEN)|COLON EQUAL|CURLY LOOP|DAGGER|(DOWN|UP) TACK|(EXCLAMATION|
HIGH-REVERSED-9 QUOTATION|QUESTION|SUSPENSION) MARK|HYPHEN|INTEGRAL|INTERSECTION|(LEFT ARC GREATER|
RIGHT ARC LESS)-THAN BRACKET|LOGICAL (AND|OR)|LOW( LINE|-(9|REVERSED-9) QUOTATION MARK)|
NESTED (GREATER-THAN|LESS-THAN( WITH UNDERBAR|))|OBLIQUE HYPHEN|PLUS|PRECEDES|
PRIME( QUOTATION MARK|)|SOLIDUS OPERATOR|SQUARE (INTERSECTION|UNION)|STACKED COMMA|STROKE NOT SIGN|
SUBSET|SUCCEEDS|SUPERSET|UNION|VERTICAL (BAR( (DOUBLE (LEFT|RIGHT) TURNSTILE|LEFT TURNSTILE)|)|
LINE)|WAVY OVERLINE)|-(ENDED MULTIMAP|LINE (EQUAL TO OR (GREATER|LESS)-THAN|
SLANTED (EQUAL TO OR (GREATER|LESS)-THAN|(GREATER|LESS)-THAN OR EQUAL TO))|STRUCK (CAPITAL (C|
GAMMA|H|N|P|PI|Q|R|Z)|ITALIC (CAPITAL D|SMALL (D|E|I|J))|N-ARY SUMMATION|SMALL (GAMMA|PI))))|
DOUBLED ((FEMALE|MALE) SIGN|SYMBOL)|DOUGHNUT|DOVE OF PEACE|DOWN( (ARROWHEAD|FISH TAIL|
RIGHT DIAGONAL ELLIPSIS|TACK( WITH CIRCLE BELOW|))|-POINTING ((RED|SMALL RED) TRIANGLE|
TRIANGLE WITH (LEFT|RIGHT) HALF BLACK))|DOWNWARD FACING (HOOK|NOTCHED HOOK)( WITH DOT|)|
DOWNWARDS (ANCORA|ARROW( (AND RIGHT ONE EIGHTH BLOCK|FROM BAR|LEFTWARDS OF UPWARDS ARROW|TO BAR|
WITH (CORNER LEFTWARDS|(DOUBLE|HORIZONTAL) STROKE|(EQUILATERAL|LARGE TRIANGLE|
MEDIUM TRIANGLE) ARROWHEAD|NOTCHED TAIL|SMALL (EQUILATERAL|TRIANGLE) ARROWHEAD|TIP (LEFTWARDS|
RIGHTWARDS)))|)|BLACK (ARROW|CIRCLED WHITE ARROW)|(COMPRESSED|DASHED|DOUBLE|FINGER-POST|QUADRUPLE|
SANS-SERIF|SQUARED|TRIPLE|ZIGZAG) ARROW|HARPOON WITH BARB (LEFT (BESIDE (DOWNWARDS|
UPWARDS) HARPOON WITH BARB RIGHT|FROM BAR|TO BAR)|LEFTWARDS|RIGHT (FROM BAR|TO BAR)|RIGHTWARDS)|
HEAVY (ARROW|COMPRESSED ARROW)|PAIRED ARROWS|ROCKET|TRIANGLE( ARROWHEAD|
-HEADED (ARROW( (LEFTWARDS OF UPWARDS TRIANGLE-HEADED ARROW|TO BAR|WITH ((BOLD|HEAVY|MEDIUM|NARROW|
VERY HEAVY) SHAFT|DOUBLE HORIZONTAL STROKE|LONG TIP (LEFTWARDS|RIGHTWARDS)))|)|(DASHED|
ZIGZAG) ARROW|PAIRED ARROWS))|TWO( HEADED ARROW|-HEADED ARROW WITH TRIANGLE ARROWHEADS)|
WHITE ARROW( WITHIN TRIANGLE ARROWHEAD|))|DRESS|DROP OF BLOOD|DROPLET|DRUM WITH DRUMSTICKS|DUCK|
DUMPLING|DUPLOYAN (AFFIX (ATTACHED ((E|I) HOOK|LEFT-TO-RIGHT SECANT|SECANT|TAIL|TANGENT( HOOK|))|
HIGH (ACUTE|CIRCLE|DOT|GRAVE|LINE|LONG GRAVE|TIGHT ACUTE|VERTICAL( SECANT|)|WAVE)|(LEFT|
RIGHT) HORIZONTAL SECANT|LOW (ACUTE|ARROW|CIRCLE|DOT|GRAVE|LINE|LONG GRAVE|TIGHT ACUTE|
VERTICAL( SECANT|)|WAVE)|MID (HORIZONTAL|VERTICAL) SECANT)|DOUBLE MARK|LETTER (A|AOU|B|(D|R)( S|)|
DH|E|EE|EU|(F|P|U)( N|)|G( R S|)|H|HL|I|IE|J( ((M|N)( S|)|S( WITH DOT|)|WITH (DOT|
DOTS INSIDE AND ABOVE))|)|K( (M|R S)|)|KK|L|LH|(LONG|ROMANIAN) (I|U)|M( (N( S|)|S|WITH DOT)|)|
N( (M( S|)|S|WITH DOT)|)|NASAL (A|I|O|U)|O|OA|OOH|OU|OW|PERNIN (AM|AN)|RH|S( (J( S|)|(K|P|T)( R|)|
M|N|S|WITH DOT( BELOW|))|)|SHORT I|SLOAN (AN|DH|EE|EH|EN|J|ON|OW|U)|T( (R S|S)|)|TH|UH|UI|V|
VOCALIC M|W( R|)|WA|WEI|WH|WI|WO|WOW|X|XW|YE)|PUNCTUATION CHINOOK FULL STOP|SIGN O WITH CROSS|
THICK LETTER SELECTOR)|DVD|EAGLE|EAR( (OF (MAIZE|RICE)|WITH HEARING AID)|)|EARTH( (GLOBE (AMERICAS|
ASIA-AUSTRALIA|EUROPE-AFRICA)|GROUND)|)|EDITORIAL CORONIS|EGG|EGYPTIAN( (HIEROGLYPH( (A(001~004|
007~013|015|016|018~031|033~039|041|044|046~070|(005|014|017|032|040|042|043|045)(A|)|006(A|B|))|
AA(001~006|008~032|007(A|B|))|B(001~004|006~009|005(A|))|(BEGIN|END) SEGMENT|C(001|003~009|011~024|
002(A|B|C|)|010(A|))|D(001~007|009~026|028~030|032|033|035~045|047|049|051|053|055~066|(008|027|
031|034|046|048|052|054)(A|)|050(A|B|C|D|E|F|G|H|I|)|067(A|B|C|D|E|F|G|H|))|E(001~007|010~015|018|
019|021~027|029~033|036~038|(008|009|016|017|020|028|034)(A|))|F(002~012|014~020|022~030|032~036|
039~044|048~050|052|053|(001|013|021|031|037|038|045~047)(A|)|051(A|B|C|))|G(001~005|008~010|
012~019|021~025|027~035|038~042|044|046~054|(006|011|020|026|036|037|043|045)(A|)|007(A|B|))|
H(001~005|007|008|006(A|))|(HORIZONTAL|VERTICAL) JOINER|I(001~004|006~008|012~015|(005|009~011)(A|
))|INSERT AT (BOTTOM|TOP) (END|START)|K(001~008)|L(001|003~005|007|008|002(A|)|006(A|))|M(002|
004~009|011|013|014|018~021|023|025~027|029|030|032|034~039|041~044|(001|033)(A|B|)|(003|010|
015~017|022|024|028|031|040)(A|)|012(A|B|C|D|E|F|G|H|))|N(001~017|019~024|026~032|036|038~042|
018(A|B|)|(025|033~035|037)(A|))|NL(001~004|006~016|018~020|005(A|)|017(A|))|NU(001~009|012~017|
019~021|(010|011|018|022)(A|))|O(002~004|007~009|011~018|021~023|026~028|031|032|034|035|037~049|
051|(001|005|019|020|024|025|029|030|033)(A|)|006(A|B|C|D|E|F|)|010(A|B|C|)|036(A|B|C|D|)|050(A|B|
))|OVERLAY MIDDLE|P(002|004~011|001(A|)|003(A|))|Q(001~007)|R(001|004~009|011~015|017~029|(002|010|
016)(A|)|003(A|B|))|S(001|003~005|007~013|015|016|018~025|027~034|036~046|(002|006|017|035)(A|)|
(014|026)(A|B|))|T(001|002|004~006|010|012~015|017~031|034~036|(003|007~009|011|016|032|033)(A|))|
U(001~005|007~022|024~028|030|031|033~042|006(A|B|)|(023|029|032)(A|))|V(003~006|008~010|013~019|
021|022|024~027|032|034~036|038|039|001(A|B|C|D|E|F|G|H|I|)|(002|023|028~031|033|037|040)(A|)|(007|
012)(A|B|)|011(A|B|C|)|020(A|B|C|D|E|F|G|H|I|J|K|L|))|W(001|002|004~008|011~013|015|016|019~023|
025|(003|009|010|014|017|018|024)(A|))|X(001~003|005|007|004(A|B|)|006(A|)|008(A|))|Y(002~008|
001(A|))|Z(001|006~014|002(A|B|C|D|)|003(A|B|)|004(A|)|005(A|)|015(A|B|C|D|E|F|G|H|I|)|016(A|B|C|D|
E|F|G|H|))))))|EIGHT (PETALLED OUTLINED BLACK FLORETTE|POINTED (BLACK|PINWHEEL|
RECTILINEAR BLACK) STAR|(SPOKED|TEARDROP-SPOKED PROPELLER) ASTERISK)|(EIGHTH|QUARTER) NOTE|
ELBASAN LETTER (A|BE|CE|CHE|DE|DHE|E|EI|FE|GE|GHAMMA|GHE|GJE|HE|I|JE|KE|KHE|LE|LLE|ME|NA|NDE|NE|
NJE|O|PE|QE|RE|RRE|SE|SHE|TE|THE|U|VE|XE|Y|ZE|ZHE)|ELECTRIC (ARROW|LIGHT BULB|PLUG|TORCH)|
(ELECTRICAL|TRANSVERSAL) INTERSECTION|ELEMENT OF( (OPENING (DOWNWARDS|UPWARDS)|WITH (DOT ABOVE|
(LONG|VERTICAL BAR AT END OF) HORIZONTAL STROKE|OVERBAR|TWO HORIZONTAL STROKES|UNDERBAR))|)|
ELEPHANT|ELEVATOR|ELF|ELYMAIC (LETTER (ALEPH|AYIN|BETH|DALETH|GIMEL|HE|HETH|KAPH|LAMEDH|MEM|NUN|PE|
QOPH|RESH|SADHE|SAMEKH|SHIN|TAW|TETH|WAW|YODH|ZAYIN)|LIGATURE ZAYIN-YODH)|(EM|EN) (DASH|QUAD|
SPACE)|EMOJI( (COMPONENT (BALD|(CURLY|RED|WHITE) HAIR)|MODIFIER( (FITZPATRICK( (TYPE(-(3~6|
1-2))))))))|EMPTY (DOCUMENT|NEST|NOTE( (PAD|PAGE)|)|PAGE|PAGES|SET( WITH ((LEFT|RIGHT) ARROW ABOVE|
OVERBAR|SMALL CIRCLE ABOVE)|))|END (OF ((GUARDED|PROTECTED|SELECTED) AREA|LINE|MEDIUM|PROOF|TEXT|
TRANSMISSION( BLOCK|))|WITH LEFTWARDS ARROW ABOVE)|ENQ|ENQUIRY|
ENVELOPE( WITH (DOWNWARDS ARROW ABOVE|LIGHTNING)|)|EOL|EOM|EOT|EPA|EQUAL (AND PARALLEL TO|
TO (BY DEFINITION|OR ((GREATER|LESS)-THAN|PRECEDES|SUCCEEDS)))|EQUALS (COLON|
SIGN( (ABOVE ((LEFTWARDS|RIGHTWARDS) ARROW|PLUS SIGN|TILDE OPERATOR)|
AND SLANTED PARALLEL( WITH TILDE ABOVE|)|WITH (BUMPY ABOVE|(DOT|INFINITY|
TWO DOTS ABOVE AND TWO DOTS) BELOW))|)|WITH ASTERISK)|EQUIVALENT (TO|WITH FOUR DOTS ABOVE)|
(ERASE TO THE|NEWLINE) (LEFT|RIGHT)|ERIS FORM (ONE|TWO)|ERROR-BARRED (BLACK|WHITE) (CIRCLE|DIAMOND|
SQUARE)|ESA|ESC|ESCAPE|ESTIMATES|ETB|ETHIOPIC (COLON|COMBINING (GEMINATION (AND VOWEL LENGTH MARK|
MARK)|VOWEL LENGTH MARK)|COMMA|DIGIT (EIGHT|FIVE|FOUR|NINE|ONE|SEVEN|SIX|THREE|TWO)|FULL STOP|
NUMBER (EIGHTY|FIFTY|FORTY|HUNDRED|NINETY|SEVENTY|SIXTY|TEN( THOUSAND|)|THIRTY|TWENTY)|
PARAGRAPH SEPARATOR|PREFACE COLON|(QUESTION|SECTION) MARK|SEMICOLON|SYLLABLE (BA|BAA|BBA|BBAA|BBE|
BBEE|BBI|BBO|BBU|BE|BEE|BI|BO|BOA|BU|BWA|BWE|BWEE|BWI|CA|CAA|CCA|CCAA|CCE|CCEE|CCHA|CCHAA|CCHE|
CCHEE|CCHHA|CCHHAA|CCHHE|CCHHEE|CCHHI|CCHHO|CCHHU|CCHI|CCHO|CCHU|CCI|CCO|CCU|CE|CEE|CHA|CHAA|CHE|
CHEE|CHI|CHO|CHOA|CHU|CHWA|CI|CO|COA|CU|CWA|DA|DAA|DDA|DDAA|DDE|DDEE|DDHAA|DDHE|DDHEE|DDHI|DDHO|
DDHU|DDI|DDO|DDOA|DDU|DDWA|DE|DEE|DI|DO|DOA|DU|DWA|DZAA|DZE|DZEE|DZI|DZO|DZU|FA|FAA|FE|FEE|FI|FO|
FU|FWA|FWE|FWEE|FWI|FYA|GA|GAA|GE|GEE|GGA|GGAA|GGE|GGEE|GGI|GGO|GGU|GGWA|GGWAA|GGWE|GGWEE|GGWI|GI|
GLOTTAL (A|AA|E|EE|I|O|OA|U|WA)|GO|GOA|GU|GURAGE (BWEE|BWI|FWEE|FWI|GWE|GWEE|GWI|HHWA|KWE|KWEE|KWI|
MWEE|MWI|PWEE|PWI|QWE|QWEE|QWI)|GWA|GWAA|GWE|GWEE|GWI|GYA|GYAA|GYE|GYEE|GYI|GYO|GYU|HA|HAA|HE|HEE|
HHA|HHAA|HHE|HHEE|HHI|HHO|HHU|HHWA|HHWE|HHWEE|HHWI|HHYA|HHYAA|HHYE|HHYEE|HHYI|HHYO|HHYU|HI|HO|HOA|
HU|JA|JAA|JE|JEE|JI|JO|JOA|JU|JWA|KA|KAA|KE|KEE|KI|KO|KOA|KU|KWA|KWAA|KWE|KWEE|KWI|KXA|KXAA|KXE|
KXEE|KXI|KXO|KXU|KXWA|KXWAA|KXWE|KXWEE|KXWI|KYA|KYAA|KYE|KYEE|KYI|KYO|KYU|LA|LAA|LE|LEE|LI|LO|LOA|
LU|LWA|MA|MAA|ME|MEE|MI|MO|MOA|MU|MWA|MWE|MWEE|MWI|MYA|NA|NAA|NE|NEE|NI|NO|NOA|NU|NWA|NYA|NYAA|NYE|
NYEE|NYI|NYO|NYOA|NYU|NYWA|PA|PAA|PE|PEE|PHA|PHAA|PHARYNGEAL (A|AA|E|EE|I|O|U)|PHE|PHEE|PHI|PHO|
PHOA|PHU|PHWA|PI|PO|POA|PU|PWA|PWE|PWEE|PWI|QA|QAA|QE|QEE|QHA|QHAA|QHE|QHEE|QHI|QHO|QHU|QHWA|QHWAA|
QHWE|QHWEE|QHWI|QI|QO|QOA|QU|QWA|QWAA|QWE|QWEE|QWI|QYA|QYAA|QYE|QYEE|QYI|QYO|QYU|RA|RAA|RE|REE|RI|
RO|ROA|RU|RWA|RYA|SA|SAA|SE|SEBATBEIT (BWA|FWA|MWA|PWA)|SEE|SHA|SHAA|SHE|SHEE|SHI|SHO|SHOA|SHU|
SHWA|SI|SO|SOA|SSA|SSAA|SSE|SSEE|SSI|SSO|SSU|SU|SWA|SZA|SZAA|SZE|SZEE|SZI|SZO|SZU|SZWA|TA|TAA|TE|
TEE|THA|THAA|THE|THEE|THI|THO|THOA|THU|THWA|TI|TO|TOA|TSA|TSAA|TSE|TSEE|TSI|TSO|TSU|TSWA|TTHAA|
TTHE|TTHEE|TTHI|TTHO|TTHU|TU|TWA|TZA|TZAA|TZE|TZEE|TZI|TZO|TZOA|TZU|VA|VAA|VE|VEE|VI|VO|VU|VWA|WA|
WAA|WE|WEE|WI|WO|WOA|WU|XA|XAA|XE|XEE|XI|XO|XOA|XU|XWA|XWAA|XWE|XWEE|XWI|XYA|XYAA|XYE|XYEE|XYI|XYO|
XYU|YA|YAA|YE|YEE|YI|YO|YOA|YU|ZA|ZAA|ZE|ZEE|ZHA|ZHAA|ZHE|ZHEE|ZHI|ZHO|ZHU|ZHWA|ZI|ZO|ZOA|ZU|ZWA|
ZZA|ZZAA|ZZE|ZZEE|ZZI|ZZO|ZZU)|TONAL MARK (CHIRET|DERET(-HIDET|)|DIFAT|HIDET|KENAT|KURT|RIKRIK|
SHORT RIKRIK|YIZET)|WORDSPACE)|ETX|EULER CONSTANT|EURO( SIGN|-CURRENCY SIGN)|EUROPEAN (CASTLE|
POST OFFICE)|EXCESS|EXCLAMATION (MARK|QUESTION MARK)|(EXTENDED ARABIC-INDIC|
SEGMENTED) DIGIT (EIGHT|FIVE|FOUR|NINE|ONE|SEVEN|SIX|THREE|TWO|ZERO)|EXTRATERRESTRIAL ALIEN|
EXTREMELY HEAVY ((FIVE|SIX) SPOKED ASTERISK|GREEK CROSS|SALTIRE|WHITE (CIRCLE|SQUARE))|EYE|
EYEGLASSES|EYES|FACE (HOLDING BACK TEARS|MASSAGE|PALM|SAVOURING DELICIOUS FOOD|SCREAMING IN FEAR|
THROWING A KISS|WITH (COLD SWEAT|COWBOY HAT|(DIAGONAL|UNEVEN EYES AND WAVY) MOUTH|
FINGER COVERING CLOSED LIPS|HEAD-BANDAGE|LOOK OF TRIUMPH|MEDICAL MASK|MONOCLE|(NO GOOD|OK) GESTURE|
ONE EYEBROW RAISED|OPEN (EYES AND HAND OVER MOUTH|MOUTH( (AND COLD SWEAT|VOMITING)|))|
PARTY HORN AND PARTY HAT|PEEKING EYE|(PLEADING|ROLLING) EYES|
STUCK-OUT TONGUE( AND (TIGHTLY-CLOSED EYES|WINKING EYE)|)|TEARS OF JOY|THERMOMETER)|WITHOUT MOUTH)|
FACTORY|FAIRY|FALAFEL|(FALLEN|MAPLE) LEAF|FALLING DIAGONAL (CROSSING (NORTH EAST ARROW|
RISING DIAGONAL)|IN WHITE CIRCLE IN BLACK SQUARE)|FAMILY|(FATHER|MOTHER) CHRISTMAS|FAX (ICON|
MACHINE)|FEATHER|(FEMININE ORDINAL|MASCULINE ORDINAL|POSITION) INDICATOR|FENCER|FERRIS WHEEL|FERRY|
FF|FIGURE (DASH|SPACE)|FILE (CABINET|FOLDER|SEPARATOR)|FILM (FRAMES|PROJECTOR)|FIRE( (ENGINE|
EXTINGUISHER)|)|FIRECRACKER|FIREWORK SPARKLER|FIREWORKS|FIRST (PLACE MEDAL|QUARTER MOON( (SYMBOL|
WITH FACE)|)|STRONG ISOLATE)|FISH( CAKE WITH SWIRL DESIGN|)|FISHEYE|FISHING POLE AND FISH|
FIVE DOT (MARK|PUNCTUATION)|FLAG IN HOLE|FLAMINGO|FLATBREAD|FLATNESS|FLEUR-DE-LIS|FLEXED BICEPS|
(FLOPPY|HARD) DISK|FLOWER( (PLAYING CARDS|PUNCTUATION MARK)|)|FLY|FLYING (DISC|ENVELOPE|SAUCER)|
FOG|FOGGY|FOLDER|FONDUE|FOOT|FOOTPRINTS|FOR ALL|FORCES|FORK AND KNIFE( WITH PLATE|)|
FORKED PARAGRAPHOS|FORKING|FORM FEED|FORTUNE COOKIE|FOUNTAIN|FOUR( ((BALLOON|CLUB|
TEARDROP)-SPOKED ASTERISK|CORNER ARROWS CIRCLING ANTICLOCKWISE|DOT (MARK|PUNCTUATION)|LEAF CLOVER|
POINTED BLACK STAR)|-PER-EM SPACE)|FRACTION (NUMERATOR ONE|SLASH)|FRAME WITH (AN X|PICTURE|TILES)|
FRENCH (FRANC SIGN|FRIES)|FRIED SHRIMP|FRONT-(FACING BABY CHICK|
TILTED SHADOWED WHITE RIGHTWARDS ARROW)|FROWN|(FROWNING FACE WITH OPEN|
SERIOUS FACE WITH SYMBOLS COVERING) MOUTH|FS|FSI|FUEL PUMP|FULL (BLOCK|MOON (SYMBOL|WITH FACE)|
OUTER JOIN|STOP)|FULLWIDTH (AMPERSAND|APOSTROPHE|ASTERISK|BROKEN BAR|(CENT|DOLLAR|EQUALS|
GREATER-THAN|LESS-THAN|NOT|NUMBER|PERCENT|PLUS|POUND|WON|YEN) SIGN|(CIRCUMFLEX|GRAVE) ACCENT|COLON|
COMMA|COMMERCIAL AT|DIGIT (EIGHT|FIVE|FOUR|NINE|ONE|SEVEN|SIX|THREE|TWO|ZERO)|(EXCLAMATION|
QUESTION|QUOTATION) MARK|FULL STOP|HYPHEN-MINUS|LATIN (CAPITAL|SMALL) LETTER (A|B|C|D|E|F|G|H|I|J|
K|L|M|N|O|P|Q|R|S|T|U|V|W|X|Y|Z)|(LEFT|RIGHT) ((CURLY|SQUARE) BRACKET|PARENTHESIS|
WHITE PARENTHESIS)|(LOW|VERTICAL) LINE|MACRON|REVERSE SOLIDUS|SEMICOLON|SOLIDUS|TILDE)|
FUNCTION APPLICATION|FUNERAL URN|FUSE|GAME DIE|GARLIC|GEAR( (WITH HANDLES|WITHOUT HUB)|)|GEMINI|
GENIE|GEOMETRIC PROPORTION|GEOMETRICALLY (EQUAL TO|EQUIVALENT TO)|GEORGIAN ((CAPITAL|
SMALL) LETTER (AEN|AN|BAN|CAN|CHAR|CHIN|CIL|DON|EN|GAN|GHAN|HAE|HAR|HE|HIE|HOE|IN|JHAN|JIL|KAN|
KHAR|LAS|MAN|NAR|ON|PAR|PHAR|QAR|RAE|SAN|SHIN|TAN|TAR|UN|VIN|WE|XAN|YN|ZEN|ZHAR)|(LETTER|
MTAVRULI CAPITAL LETTER) (AEN|AIN|AN|BAN|CAN|CHAR|CHIN|CIL|DON|ELIFI|EN|FI|GAN|GHAN|HAE|HAR|(HARD|
LABIAL) SIGN|HE|HIE|HOE|IN|JHAN|JIL|KAN|KHAR|LAS|MAN|NAR|ON|PAR|PHAR|QAR|RAE|SAN|SHIN|TAN|TAR|
TURNED GAN|UN|VIN|WE|XAN|YN|ZEN|ZHAR)|PARAGRAPH SEPARATOR)|GHOST|GIRL|GLAGOLITIC (CAPITAL|
SMALL) LETTER (AZU|BIG YUS|BUKY|CAUDATE CHRIVI|CHRIVI|DJERVI|DOBRO|DZELO|FITA|FRITU|GLAGOLI|HERU|I|
INITIAL IZHE|IOTATED (BIG YUS|SMALL YUS)|IZHE|IZHITSA|KAKO|LATINATE MYSLITE|LJUDIJE|MYSLITE|NASHI|
ONU|OTU|PE|POKOJI|RITSI|SHA|SHTA|SHTAPIC|SLOVO|SMALL YUS( WITH TAIL|)|SPIDERY HA|TROKUTASTI A|TSI|
TVRIDO|UKU|VEDE|YATI|YERI|YERU|YESTU|YO|YU|ZEMLJA|ZHIVETE)|GLASS OF MILK|GLEICH STARK|
GLOBE WITH MERIDIANS|GLOVES|(GLOWING|PINWHEEL|SHOOTING|STRESS OUTLINED WHITE|
TWELVE POINTED BLACK) STAR|GOAL NET|GOAT|GOGGLES|GOLFER|GORILLA|GOTHIC LETTER (AHSA|AIHVUS|BAIRKAN|
DAGS|EIS|FAIHU|GIBA|HAGL|HWAIR|IGGWS|IUJA|JER|KUSMA|LAGUS|MANNA|NAUTHS|NINE HUNDRED|NINETY|OTHAL|
PAIRTHRA|QAIRTHRA|RAIDA|SAUIL|TEIWS|THIUTH|URUS|WINJA)|GRADUATION CAP|GRANTHA (AU LENGTH MARK|
LETTER (A|AA|AI|AU|BA|BHA|CA|CHA|DA|DDA|DDHA|DHA|EE|GA|GHA|HA|I|II|JA|JHA|KA|KHA|LA|LLA|MA|NA|NGA|
NNA|NYA|OO|PA|PHA|RA|SA|SHA|SSA|TA|THA|TTA|TTHA|U|UU|VA|VEDIC (ANUSVARA|DOUBLE ANUSVARA)|
VOCALIC (L|LL|R|RR)|YA)|OM|SIGN (ANUSVARA|AVAGRAHA|CANDRABINDU|COMBINING ANUSVARA ABOVE|NUKTA|
PLUTA|VIRAMA|VISARGA)|VOWEL SIGN (AA|AI|AU|EE|I|II|OO|U|UU|VOCALIC (L|LL|R|RR)))|GRAPES|
GREATER-THAN (ABOVE (DOUBLE-LINE EQUAL ABOVE LESS-THAN|(LESS-THAN ABOVE DOUBLE-LINE|
SLANTED EQUAL ABOVE LESS-THAN ABOVE SLANTED) EQUAL|RIGHTWARDS ARROW|SIMILAR (ABOVE LESS-THAN|
OR EQUAL))|AND (NOT APPROXIMATE|SINGLE-LINE NOT EQUAL TO)|(BESIDE|EQUAL TO OR|
OVERLAPPING) LESS-THAN|BUT NOT (EQUAL TO|EQUIVALENT TO)|CLOSED BY CURVE( ABOVE SLANTED EQUAL|)|
OR (APPROXIMATE|EQUAL TO|EQUIVALENT TO|LESS-THAN|SLANTED EQUAL TO( WITH DOT (ABOVE( LEFT|)|INSIDE)|
))|OVER EQUAL TO|SIGN|WITH (CIRCLE INSIDE|DOT|QUESTION MARK ABOVE))|
GREEK( (ACROPHONIC (ATTIC (FIFTY( (STATERS|TALENTS|THOUSAND( STATERS|))|)|FIVE( (HUNDRED( (STATERS|
TALENTS)|)|STATERS|TALENTS|THOUSAND( TALENTS|))|)|ONE (DRACHMA|HALF|(HUNDRED|THOUSAND) (STATERS|
TALENTS)|QUARTER)|TEN (MNAS|STATERS|TALENTS|THOUSAND STATERS))|(CARYSTIAN|NAXIAN) FIVE HUNDRED|
CYRENAIC TWO DRACHMAS|(DELPHIC FIVE|STRATIAN FIFTY) MNAS|EPIDAUREAN (FIVE HUNDRED|TWO( DRACHMAS|))|
HERAEUM ONE PLETHRON|HERMIONIAN (FIFTY|ONE|TEN)|MESSENIAN TEN|THESPIAN (FIFTY|FIVE (HUNDRED|
THOUSAND)|ONE( (HUNDRED|THOUSAND)|)|TEN|THIRTY|THREE HUNDRED|TWO)|TROEZENIAN ((FIFTY|
TEN)( ALTERNATE FORM|)|FIVE( HUNDRED|)))|ANO TELEIA|(AROURA|ARTABE|DRACHMA|FIVE OBOLS|FOUR OBOLS|
GRAMMA|INDICTION|KYATHOS BASE|LITRA|LOWER NUMERAL|METRETES|NUMERAL|OBOL|OUNKIA|SINUSOID|TALENT|
TRYBLION BASE|XESTES|YEAR|ZERO) SIGN|(BETA|KAI|KAPPA|PHI|PI|REVERSED LUNATE EPSILON|THETA) SYMBOL|
CAPITAL ((DOTTED LUNATE SIGMA|KAI|LUNATE SIGMA|THETA) SYMBOL|LETTER (ALPHA( WITH ((DASIA|
PSILI)( AND ((OXIA|PERISPOMENI|VARIA)( AND PROSGEGRAMMENI|)|PROSGEGRAMMENI)|)|MACRON|OXIA|
PROSGEGRAMMENI|TONOS|VARIA|VRACHY)|)|ARCHAIC SAMPI|BETA|CHI|DELTA|(EPSILON|OMICRON)( WITH ((DASIA|
PSILI)( AND (OXIA|VARIA)|)|OXIA|TONOS|VARIA)|)|(ETA|OMEGA)( WITH ((DASIA|PSILI)( AND ((OXIA|
PERISPOMENI|VARIA)( AND PROSGEGRAMMENI|)|PROSGEGRAMMENI)|)|OXIA|PROSGEGRAMMENI|TONOS|VARIA)|)|
GAMMA|HETA|IOTA( WITH ((DASIA|PSILI)( AND (OXIA|PERISPOMENI|VARIA)|)|DIALYTIKA|MACRON|OXIA|TONOS|
VARIA|VRACHY)|)|KAPPA|LAMDA|MU|NU|PAMPHYLIAN DIGAMMA|PHI|PI|PSI|RHO( WITH DASIA|)|SAN|SHO|SIGMA|
TAU|THETA|UPSILON( WITH (DASIA( AND (OXIA|PERISPOMENI|VARIA)|)|DIALYTIKA|MACRON|OXIA|TONOS|VARIA|
VRACHY)|)|XI|YOT|ZETA)|REVERSED (DOTTED LUNATE|LUNATE) SIGMA SYMBOL)|(DASIA|PSILI)( AND (OXIA|
PERISPOMENI|VARIA)|)|DIALYTIKA (AND (OXIA|PERISPOMENI|VARIA)|TONOS)|
INSTRUMENTAL( (NOTATION( (SYMBOL(-(1|2|4|5|7|8|11~14|17~19|23~27|29|30|32|36~40|42|43|45|
47~54))))))|KORONIS|LETTER (ARCHAIC KOPPA|DIGAMMA|KOPPA|SAMPI|SMALL CAPITAL (GAMMA|LAMDA|OMEGA|PI|
PSI|RHO)|STIGMA|YOT)|LUNATE (EPSILON|SIGMA) SYMBOL|MUSICAL LEIMMA|ONE (HALF SIGN( ALTERNATE FORM|)|
QUARTER SIGN)|OXIA|PERISPOMENI|PROSGEGRAMMENI|QUESTION MARK|RHO (SYMBOL|WITH STROKE SYMBOL)|
SMALL (DOTTED LUNATE SIGMA SYMBOL|LETTER (ALPHA( WITH ((DASIA|PSILI)( AND ((OXIA|PERISPOMENI|
VARIA)( AND YPOGEGRAMMENI|)|YPOGEGRAMMENI)|)|MACRON|(OXIA|PERISPOMENI|VARIA)( AND YPOGEGRAMMENI|)|
TONOS|VRACHY|YPOGEGRAMMENI)|)|ARCHAIC (KOPPA|SAMPI)|BETA|CHI|DELTA|DIGAMMA|(EPSILON|
OMICRON)( WITH ((DASIA|PSILI)( AND (OXIA|VARIA)|)|OXIA|TONOS|VARIA)|)|(ETA|OMEGA)( WITH ((DASIA|
PSILI)( AND ((OXIA|PERISPOMENI|VARIA)( AND YPOGEGRAMMENI|)|YPOGEGRAMMENI)|)|(OXIA|PERISPOMENI|
VARIA)( AND YPOGEGRAMMENI|)|TONOS|YPOGEGRAMMENI)|)|FINAL SIGMA|GAMMA|HETA|(IOTA|
UPSILON)( WITH ((DASIA|PSILI)( AND (OXIA|PERISPOMENI|VARIA)|)|DIALYTIKA( AND (OXIA|PERISPOMENI|
TONOS|VARIA)|)|MACRON|OXIA|PERISPOMENI|TONOS|VARIA|VRACHY)|)|KAPPA|KOPPA|LAMDA|MU|NU|
PAMPHYLIAN DIGAMMA|PHI|PI|PSI|RHO( WITH (DASIA|PSILI)|)|SAMPI|SAN|SHO|SIGMA|STIGMA|TAU|THETA|XI|
ZETA)|REVERSED (DOTTED LUNATE|LUNATE) SIGMA SYMBOL)|SUBSCRIPT SMALL LETTER (BETA|CHI|GAMMA|PHI|
RHO)|SYMBOL TAU RHO|THREE (OBOLS|QUARTERS) SIGN|TONOS|TWO (OBOLS|THIRDS) SIGN|UPSILON WITH ((ACUTE|
DIAERESIS) AND HOOK SYMBOL|HOOK SYMBOL)|VARIA|VOCAL( (NOTATION( (SYMBOL(-(1~24|50~54))))))|
YPOGEGRAMMENI))|GREEN (APPLE|BOOK|HEART|SALAD)|GRINNING (CAT FACE WITH SMILING EYES|
FACE( WITH (ONE LARGE AND ONE SMALL EYE|(SMILING|STAR) EYES)|))|GROUP (MARK|SEPARATOR)|GS|
GUARDSMAN|GUIDE DOG|GUITAR|GUJARATI ((ABBREVIATION|RUPEE) SIGN|DIGIT (EIGHT|FIVE|FOUR|NINE|ONE|
SEVEN|SIX|THREE|TWO|ZERO)|LETTER (A|AA|AI|AU|BA|BHA|CA|CHA|DA|DDA|DDHA|DHA|E|GA|GHA|HA|I|II|JA|JHA|
KA|KHA|LA|LLA|MA|NA|NGA|NNA|NYA|O|PA|PHA|RA|SA|SHA|SSA|TA|THA|TTA|TTHA|U|UU|VA|VOCALIC (L|LL|R|RR)|
YA|ZHA)|OM|SIGN (ANUSVARA|AVAGRAHA|CANDRABINDU|(CIRCLE|THREE-DOT|TWO-CIRCLE) NUKTA ABOVE|MADDAH|
NUKTA|SHADDA|SUKUN|VIRAMA|VISARGA)|VOWEL (CANDRA (E|O)|SIGN (AA|AI|AU|CANDRA (E|O)|E|I|II|O|U|UU|
VOCALIC (L|LL|R|RR))))|GUNJALA GONDI (DIGIT (EIGHT|FIVE|FOUR|NINE|ONE|SEVEN|SIX|THREE|TWO|ZERO)|
LETTER (A|AA|AI|AU|BA|BHA|CA|CHA|DA|DDA|DDHA|DHA|EE|GA|GHA|HA|I|II|JA|JHA|KA|KHA|LA|LLA|MA|NA|NGA|
OO|PA|PHA|RA|SA|TA|THA|TTA|TTHA|U|UU|VA|YA)|OM|SIGN (ANUSVARA|VISARGA)|VIRAMA|VOWEL SIGN (AA|AI|AU|
EE|I|II|OO|U|UU))|GURMUKHI (ABBREVIATION SIGN|ADDAK|DIGIT (EIGHT|FIVE|FOUR|NINE|ONE|SEVEN|SIX|
THREE|TWO|ZERO)|EK ONKAR|IRI|LETTER (A|AA|AI|AU|BA|BHA|CA|CHA|DA|DDA|DDHA|DHA|EE|FA|GA|GHA|GHHA|HA|
I|II|JA|JHA|KA|KHA|KHHA|LA|LLA|MA|NA|NGA|NNA|NYA|OO|PA|PHA|RA|RRA|SA|SHA|TA|THA|TTA|TTHA|U|UU|VA|
YA|ZA)|SIGN (ADAK BINDI|BINDI|NUKTA|UDAAT|VIRAMA|VISARGA|YAKASH)|TIPPI|URA|VOWEL SIGN (AA|AI|AU|EE|
I|II|OO|U|UU))|HADES|(HAIR|NARROW NO-BREAK|PUNCTUATION) SPACE|HAIRCUT|HALFWIDTH (BLACK SQUARE|
(DOWNWARDS|LEFTWARDS|RIGHTWARDS|UPWARDS) ARROW|FORMS LIGHT VERTICAL|HANGUL (FILLER|LETTER (A|AE|
CHIEUCH|CIEUC|E|EO|EU|HIEUH|I|IEUNG|KHIEUKH|(KIYEOK|PIEUP)(-SIOS|)|MIEUM|NIEUN(-(CIEUC|HIEUH)|)|O|
OE|PHIEUPH|RIEUL(-(HIEUH|KIYEOK|MIEUM|PHIEUPH|PIEUP|SIOS|THIEUTH)|)|SIOS|SSANGCIEUC|SSANGKIYEOK|
SSANGPIEUP|SSANGSIOS|SSANGTIKEUT|THIEUTH|TIKEUT|U|WA|WAE|WE|WEO|WI|YA|YAE|YE|YEO|YI|YO|YU))|
IDEOGRAPHIC (COMMA|FULL STOP)|KATAKANA( (LETTER (A|E|HA|HE|HI|HO|HU|I|KA|KE|KI|KO|KU|MA|ME|MI|MO|
MU|N|NA|NE|NI|NO|NU|O|RA|RE|RI|RO|RU|SA|SE|SI|SMALL (A|E|I|O|TU|U|YA|YO|YU)|SO|SU|TA|TE|TI|TO|TU|U|
WA|WO|YA|YO|YU)|MIDDLE DOT|(SEMI-VOICED|VOICED) SOUND MARK)|-HIRAGANA PROLONGED SOUND MARK)|(LEFT|
RIGHT) CORNER BRACKET|WHITE CIRCLE)|HAMBURGER|HAMMER( AND (PICK|SICKLE|WRENCH)|)|HAMSA|
HAND WITH INDEX (AND MIDDLE FINGERS|FINGER AND THUMB) CROSSED|HANDBAG|HANDBALL|HANDSHAKE|
HANGUL (CHOSEONG (CEONGCHIEUMCHIEUCH|CEONGCHIEUMCIEUC|CEONGCHIEUMSIOS|CEONGCHIEUMSSANGCIEUC|
CEONGCHIEUMSSANGSIOS|CHIEUCH(-(HIEUH|KHIEUKH)|)|CHITUEUMCHIEUCH|CHITUEUMCIEUC|CHITUEUMSIOS|
CHITUEUMSSANGCIEUC|CHITUEUMSSANGSIOS|CIEUC(-IEUNG|)|FILLER|HIEUH(-SIOS|)|IEUNG(-(CHIEUCH|CIEUC|
HIEUH|KIYEOK|MIEUM|PANSIOS|PHIEUPH|PIEUP|RIEUL|SIOS|THIEUTH|TIKEUT)|)|KAPYEOUNMIEUM|
KAPYEOUNPHIEUPH|KAPYEOUNPIEUP|KAPYEOUNRIEUL|KAPYEOUNSSANGPIEUP|KHIEUKH|KIYEOK(-TIKEUT|)|
MIEUM(-(KIYEOK|PIEUP|SIOS|TIKEUT)|)|NIEUN(-(CIEUC|HIEUH|KIYEOK|PIEUP|SIOS|TIKEUT)|)|PANSIOS|
PHIEUPH(-(HIEUH|PIEUP)|)|PIEUP(-(CHIEUCH|CIEUC|HIEUH|KHIEUKH|KIYEOK|NIEUN|PHIEUPH|SIOS(-(CIEUC|
KIYEOK|PIEUP|THIEUTH|TIKEUT)|)|SSANGSIOS|THIEUTH|TIKEUT)|)|RIEUL(-(CIEUC|HIEUH|KAPYEOUNPIEUP|
KHIEUKH|KIYEOK|MIEUM|NIEUN|PIEUP|SIOS|SSANGKIYEOK|SSANGPIEUP|SSANGTIKEUT|TIKEUT)|)|SIOS(-(CHIEUCH|
CIEUC|HIEUH|IEUNG|KHIEUKH|KIYEOK|MIEUM|NIEUN|PHIEUPH|PIEUP(-KIYEOK|)|RIEUL|SSANGSIOS|THIEUTH|
TIKEUT)|)|SSANGCIEUC(-HIEUH|)|SSANGHIEUH|SSANGIEUNG|SSANGKIYEOK|SSANGNIEUN|SSANGPIEUP|SSANGRIEUL|
SSANGSIOS(-PIEUP|)|SSANGTHIEUTH|SSANGTIKEUT|SSANGYEORINHIEUH|THIEUTH|TIKEUT(-(CIEUC|KIYEOK|MIEUM|
PIEUP|RIEUL|SIOS)|)|YEORINHIEUH|YESIEUNG)|(DOUBLE|SINGLE) DOT TONE MARK|FILLER|JONGSEONG (CHIEUCH|
CIEUC(-(PIEUP|SSANGPIEUP)|)|HIEUH(-(MIEUM|NIEUN|PIEUP|RIEUL)|)|IEUNG(-(KHIEUKH|KIYEOK|SSANGKIYEOK)|
)|KAPYEOUNMIEUM|KAPYEOUNPHIEUPH|KAPYEOUNPIEUP|KAPYEOUNRIEUL|KHIEUKH|KIYEOK(-(CHIEUCH|HIEUH|KHIEUKH|
NIEUN|PIEUP|RIEUL|SIOS(-KIYEOK|))|)|MIEUM(-(CHIEUCH|CIEUC|HIEUH|KIYEOK|NIEUN|PANSIOS|PIEUP(-SIOS|)|
RIEUL|SIOS|SSANGNIEUN|SSANGSIOS)|)|NIEUN(-(CHIEUCH|CIEUC|HIEUH|KIYEOK|PANSIOS|RIEUL|SIOS|THIEUTH|
TIKEUT)|)|PANSIOS(-(KAPYEOUNPIEUP|PIEUP)|)|PHIEUPH(-(PIEUP|SIOS|THIEUTH)|)|PIEUP(-(CHIEUCH|CIEUC|
HIEUH|MIEUM|PHIEUPH|RIEUL(-PHIEUPH|)|SIOS(-TIKEUT|)|TIKEUT)|)|RIEUL(-(HIEUH|KAPYEOUNPIEUP|KHIEUKH|
KIYEOK(-(HIEUH|SIOS)|)|MIEUM(-(HIEUH|KIYEOK|SIOS)|)|NIEUN|PANSIOS|PHIEUPH|PIEUP(-(HIEUH|PHIEUPH|
SIOS|TIKEUT)|)|SIOS|SSANGKIYEOK|SSANGSIOS|THIEUTH|(TIKEUT|YEORINHIEUH)(-HIEUH|)|YESIEUNG)|)|
SIOS(-(CHIEUCH|CIEUC|HIEUH|KAPYEOUNPIEUP|KIYEOK|MIEUM|PANSIOS|PIEUP|RIEUL|THIEUTH|TIKEUT)|)|
SSANGCIEUC|SSANGIEUNG|SSANGKIYEOK|SSANGMIEUM|SSANGNIEUN|SSANGPIEUP|SSANGRIEUL(-KHIEUKH|)|
SSANGSIOS(-(KIYEOK|TIKEUT)|)|SSANGTIKEUT(-PIEUP|)|SSANGYESIEUNG|THIEUTH|TIKEUT(-(CHIEUCH|CIEUC|
KIYEOK|PIEUP|RIEUL|SIOS(-KIYEOK|)|THIEUTH)|)|YEORINHIEUH|YESIEUNG(-(HIEUH|KHIEUKH|KIYEOK|MIEUM|
PANSIOS|SIOS|SSANGKIYEOK)|))|JUNGSEONG ((A|EO)(-(EU|O|U)|)|AE|ARAEA(-(A|E|EO|I|U)|)|E|EU(-(A|E|EO|
EU|O|U)|)|FILLER|I(-(A|ARAEA|EU|I|O(-I|)|U|YA(-O|)|YAE|YE|YEO|YO|YU)|)|O(-(E|EO|O(-I|)|U|YA|YAE|YE|
YEO)|)|OE|SSANGARAEA|U(-(A|AE|EO-EU|I-I|U|YE|YEO)|)|WA|WAE|WE|WEO|WI|YA(-(O|U|YO)|)|YAE|YE|YEO(-(O|
U|YA)|)|YI(-U|)|YO(-(A|AE|EO|I|O|YA|YAE|YEO)|)|YU(-(A|AE|E|EO|I|O|U|YE|YEO)|))|LETTER (A|AE|ARAEA|
ARAEAE|CHIEUCH|CIEUC|E|EO|EU|HIEUH|I|IEUNG|KAPYEOUNMIEUM|KAPYEOUNPHIEUPH|KAPYEOUNPIEUP|
KAPYEOUNSSANGPIEUP|KHIEUKH|KIYEOK(-SIOS|)|MIEUM(-(PANSIOS|PIEUP|SIOS)|)|NIEUN(-(CIEUC|HIEUH|
PANSIOS|SIOS|TIKEUT)|)|O|OE|PANSIOS|PHIEUPH|PIEUP(-(CIEUC|KIYEOK|SIOS(-(KIYEOK|TIKEUT)|)|THIEUTH|
TIKEUT)|)|RIEUL(-(HIEUH|(KIYEOK|PIEUP)(-SIOS|)|MIEUM|PANSIOS|PHIEUPH|SIOS|THIEUTH|TIKEUT|
YEORINHIEUH)|)|SIOS(-(CIEUC|KIYEOK|NIEUN|PIEUP|TIKEUT)|)|SSANGCIEUC|SSANGHIEUH|SSANGIEUNG|
SSANGKIYEOK|SSANGNIEUN|SSANGPIEUP|SSANGSIOS|SSANGTIKEUT|THIEUTH|TIKEUT|U|WA|WAE|WE|WEO|WI|YA|YAE|
YE|YEO|YEORINHIEUH|YESIEUNG(-(PANSIOS|SIOS)|)|YI|YO(-(I|YA|YAE)|)|YU(-(I|YE|YEO)|)))|
HANGZHOU NUMERAL (EIGHT|FIVE|FOUR|NINE|ONE|SEVEN|SIX|TEN|THIRTY|THREE|TWENTY|TWO)|
HANIFI ROHINGYA (DIGIT (EIGHT|FIVE|FOUR|NINE|ONE|SEVEN|SIX|THREE|TWO|ZERO)|LETTER (A|BA|CA|DA|DDA|
FA|GA|HA|JA|KA|KHA|KINNA (WA|YA)|LA|MA|NA|NGA|NYA|PA|RA|RRA|SA|SHA|TA|TTA|VA|WA|YA|ZA)|
MARK (NA KHONNA|SAKIN)|SIGN (HARBAHAY|TAHALA|TANA|TASSI)|VOWEL (A|E|I|O|U))|HANUNOO (LETTER (A|BA|
DA|GA|HA|I|KA|LA|MA|NA|NGA|PA|RA|SA|TA|U|WA|YA)|SIGN PAMUDPOD|VOWEL SIGN (I|U))|HATCHING CHICK|
HATRAN (LETTER (ALEPH|AYN|BETH|DALETH-RESH|GIMEL|HE|HETH|KAPH|LAMEDH|MEM|NUN|PE|QOPH|SADHE|SAMEKH|
SHIN|TAW|TETH|WAW|YODH|ZAYN)|NUMBER (FIVE|ONE( HUNDRED|)|TEN|TWENTY))|HEADPHONE|
HEADSTONE( GRAVEYARD SYMBOL|)|(HEAR|SEE|SPEAK)-NO-EVIL MONKEY|HEART (DECORATION|HANDS|WITH (ARROW|
RIBBON|TIP ON THE LEFT))|HEAVY ((AMPERSAND|HEART EXCLAMATION MARK|INTERROBANG|LIGATURE OPEN ET|
SANS-SERIF INTERROBANG|SCRIPT LIGATURE ET) ORNAMENT|ARROW SHAFT WIDTH (ONE( (HALF|THIRD)|)|
TWO THIRDS)|ASTERISK|BALLOT X|BLACK( (CURVED (DOWNWARDS|UPWARDS) AND RIGHTWARDS ARROW|HEART)|
-FEATHERED (NORTH EAST|RIGHTWARDS|SOUTH EAST) ARROW)|CHECK MARK|CHEVRON SNOWFLAKE|
CIRCLE( WITH (CIRCLE INSIDE|STROKE AND TWO DOTS ABOVE)|)|CIRCLED SALTIRE|(CONCAVE-POINTED BLACK|
DASHED TRIANGLE-HEADED|LOWER RIGHT-SHADOWED WHITE|ROUND-TIPPED|TRIANGLE-HEADED|
UPPER RIGHT-SHADOWED WHITE|WEDGE-TAILED|WIDE-HEADED) RIGHTWARDS ARROW|(DIVISION|DOLLAR|EQUALS|
MINUS|PLUS) SIGN|(DOUBLE|SINGLE) (COMMA|TURNED COMMA) QUOTATION MARK ORNAMENT|(DOWNWARDS|LEFTWARDS|
UPWARDS) ARROW WITH (EQUILATERAL|LARGE EQUILATERAL) ARROWHEAD|EIGHT (POINTED (BLACK|PINWHEEL|
RECTILINEAR BLACK) STAR|(SPOKED|TEARDROP-SPOKED PROPELLER) ASTERISK)|EXCLAMATION MARK (ORNAMENT|
SYMBOL)|(FIVE|SIX) (POINTED BLACK STAR|SPOKED ASTERISK)|FOUR BALLOON-SPOKED ASTERISK|(GREEK|LATIN|
OPEN CENTRE) CROSS|HORIZONTAL FILL|LARGE CIRCLE|(LEFT|RIGHT)-POINTING ANGLE (BRACKET|
QUOTATION MARK) ORNAMENT|LOW (DOUBLE|SINGLE) COMMA QUOTATION MARK ORNAMENT|MULTIPLICATION X|(NORTH|
SOUTH) (EAST (ARROW|POINTING (BUD|VINE LEAF))|WEST POINTING (BUD|VINE LEAF))|OUTLINED BLACK STAR|
OVAL WITH OVAL INSIDE|RIGHTWARDS ARROW( WITH (EQUILATERAL|LARGE EQUILATERAL) ARROWHEAD|)|SALTIRE|
SPARKLE|TEARDROP-(SHANKED RIGHTWARDS ARROW|SPOKED (ASTERISK|PINWHEEL ASTERISK))|
TWELVE POINTED (BLACK|PINWHEEL) STAR|VERTICAL BAR|WHITE (CIRCLE|DOWN-POINTING TRIANGLE|SQUARE))|
HEBREW (ACCENT (ATNAH HAFUKH|DARGA|DEHI|ETNAHTA|GERESH( MUQDAM|)|GERSHAYIM|ILUY|MAHAPAKH|
MERKHA( KEFULA|)|MUNAH|OLE|PASHTA|PAZER|QADMA|QARNEY PARA|REVIA|SEGOL|SHALSHELET|TELISHA (GEDOLA|
QETANA)|TEVIR|TIPEHA|YERAH BEN YOMO|YETIV|ZAQEF (GADOL|QATAN)|ZARQA|ZINOR)|
LETTER (ALEF( WITH (MAPIQ|PATAH|QAMATS)|)|ALTERNATIVE (AYIN|PLUS SIGN)|AYIN|(BET|KAF|
PE)( WITH (DAGESH|RAFE)|)|(DALET|GIMEL|LAMED|MEM|NUN|QOF|RESH|SAMEKH|TAV|TET|TSADI|
ZAYIN)( WITH DAGESH|)|FINAL ((KAF|PE)( WITH DAGESH|)|MEM|NUN|TSADI)|HE( WITH MAPIQ|)|HET|
SHIN( WITH (DAGESH( AND (SHIN DOT|SIN DOT)|)|SHIN DOT|SIN DOT)|)|VAV( WITH (DAGESH|HOLAM)|)|
WIDE (ALEF|DALET|FINAL MEM|HE|KAF|LAMED|RESH|TAV)|YOD( WITH (DAGESH|HIRIQ)|))|LIGATURE (ALEF LAMED|
YIDDISH (DOUBLE (VAV|YOD)|VAV YOD|YOD YOD PATAH))|MARK (LOWER DOT|MASORA CIRCLE|UPPER DOT)|
POINT (DAGESH OR MAPIQ|HATAF (PATAH|QAMATS|SEGOL)|HIRIQ|HOLAM( HASER FOR VAV|)|
JUDEO-SPANISH VARIKA|METEG|PATAH|QAMATS( QATAN|)|QUBUTS|RAFE|SEGOL|SHEVA|SHIN DOT|SIN DOT|TSERE)|
PUNCTUATION (GERESH|GERSHAYIM|MAQAF|NUN HAFUKHA|PASEQ|SOF PASUQ)|YOD TRIANGLE)|HEDGEHOG|HELICOPTER|
HENTAIGANA( (LETTER( (A(-(1~3|WO))|(E|KE|MO|RO|RU|SI|YO)(-(1~6))|HA(-(1~11))|(HE|HI|KU|MA|MI|RI|SO|
TI|WO)(-(1~7))|(HO|KI|SA|SU)(-(1~8))|(HU|NU|O)(-(1~3))|(I|MU|RA|RE|TA|WE|YU)(-(1~4))|KA(-(1~11|
KE))|KO(-(1~3|KI))|ME-(1|2|MA)|N-MU-MO-(1|2)|(NA|TE)(-(1~9))|NE(-(1~6|KO))|NI(-(1~7|TE))|(NO|SE|U|
WA|WI)(-(1~5))|TO(-(1~6|RA))|TU(-(1~4|TO))|YA(-(1~5|YO))))))|HERB|HERMITIAN CONJUGATE MATRIX|
HEXAGRAM FOR (ABUNDANCE|(AFTER|BEFORE) COMPLETION|APPROACH|BITING THROUGH|BREAKTHROUGH|
COMING TO MEET|CONFLICT|CONTEMPLATION|DARKENING OF THE LIGHT|DECREASE|DELIVERANCE|DEVELOPMENT|
DIFFICULTY AT THE BEGINNING|DISPERSION|DURATION|ENTHUSIASM|FELLOWSHIP|FOLLOWING|(GATHERING|
HOLDING) TOGETHER|GRACE|GREAT (POSSESSION|POWER|PREPONDERANCE|TAMING)|INCREASE|INFLUENCE|
INNER TRUTH|INNOCENCE|LIMITATION|MODESTY|MOUTH CORNERS|OBSTRUCTION|OPPOSITION|OPPRESSION|PEACE|
PROGRESS|PUSHING UPWARD|RETREAT|RETURN|REVOLUTION|SMALL (PREPONDERANCE|TAMING)|SPLITTING APART|
STANDSTILL|THE (ABYSMAL WATER|ARMY|AROUSING THUNDER|CAULDRON|CLINGING FIRE|CREATIVE HEAVEN|FAMILY|
GENTLE WIND|JOYOUS LAKE|KEEPING STILL MOUNTAIN|MARRYING MAIDEN|RECEPTIVE EARTH|WANDERER|WELL)|
TREADING|WAITING|WORK ON THE DECAYED|YOUTHFUL FOLLY)|HIBISCUS|HIGH( (BRIGHTNESS SYMBOL|
OCTET PRESET|VOLTAGE SIGN)|-(HEELED SHOE|SPEED TRAIN( WITH BULLET NOSE|)))|(HIKING|
SKI AND SKI) BOOT|HINDU TEMPLE|HIPPOPOTAMUS|HIRAGANA (DIGRAPH YORI|(ITERATION|
VOICED ITERATION) MARK|LETTER (A|ARCHAIC (WU|YE)|BA|BE|BI|BO|BU|DA|DE|DI|DO|DU|E|GA|GE|GI|GO|GU|HA|
HE|HI|HO|HU|I|KA|KE|KI|KO|KU|MA|ME|MI|MO|MU|N|NA|NE|NI|NO|NU|O|PA|PE|PI|PO|PU|RA|RE|RI|RO|RU|SA|SE|
SI|SMALL (A|E|I|KA|KE|O|TU|U|WA|WE|WI|WO|YA|YO|YU)|SO|SU|TA|TE|TI|TO|TU|U|VU|WA|WE|WI|WO|YA|YO|YU|
ZA|ZE|ZI|ZO|ZU))|HISTORIC SITE|HOCHO|HOLE|(HOLLOW|SOLID) QUILT SQUARE ORNAMENT( IN BLACK SQUARE|)|
HOMOTHETIC|HONEY POT|HONEYBEE|HOOK|HOP|HORIZONTAL( (BAR|BLACK (HEXAGON|OCTAGON)|ELLIPSIS|
LINE EXTENSION|MALE WITH STROKE SIGN|ONE( (EIGHTH( (BLOCK(-(2~7|1358))))))|SCAN LINE-(1|3|7|9)|
TAB KEY|TABULATION( (SET|WITH JUSTIFICATION)|)|TRAFFIC LIGHT))|HORSE( (FACE|RACING)|)|HOSPITAL|
HOT (BEVERAGE|DOG|PEPPER|SPRINGS)|HOTEL|HOURGLASS( WITH FLOWING SAND|)|HOUSE( (BUILDING|BUILDINGS|
WITH GARDEN)|)|HT|HTJ|HTS|HUT|HYGIEA|HYPHEN( (BULLET|WITH DIAERESIS)|-MINUS|)|HYPHENATION POINT|
HYPODIASTOLE|ICE (CREAM|CUBE|HOCKEY STICK AND PUCK|SKATE)|IDENTICAL (TO( AND SLANTED PARALLEL|)|
WITH DOT ABOVE)|IDEOGRAPHIC (ANNOTATION (BOTTOM|EARTH|FIRST|FOUR|FOURTH|HEAVEN|LINKING|MAN|MIDDLE|
ONE|REVERSE|SECOND|THIRD|THREE|TOP|TWO) MARK|(CLOSING|DEPARTING TONE|ENTERING TONE|ITERATION|
LEVEL TONE|RISING TONE) MARK|COMMA|DESCRIPTION CHARACTER (ABOVE TO (BELOW|MIDDLE AND BELOW)|
FULL SURROUND|LEFT TO (MIDDLE AND RIGHT|RIGHT)|OVERLAID|SURROUND FROM (ABOVE|BELOW|LEFT|LOWER LEFT|
UPPER (LEFT|RIGHT)))|FULL STOP|HALF FILL SPACE|NUMBER ZERO|SPACE|TALLY MARK (FIVE|FOUR|ONE|THREE|
TWO)|TELEGRAPH (LINE FEED SEPARATOR SYMBOL|SYMBOL FOR (APRIL|AUGUST|DAY (EIGHT|EIGHTEEN|ELEVEN|
FIFTEEN|FIVE|FOUR|FOURTEEN|NINE|NINETEEN|ONE|SEVEN|SEVENTEEN|SIX|SIXTEEN|TEN|THIRTEEN|THIRTY(-ONE|
)|THREE|TWELVE|TWENTY(-(EIGHT|FIVE|FOUR|NINE|ONE|SEVEN|SIX|THREE|TWO)|)|TWO)|DECEMBER|FEBRUARY|
HOUR (EIGHT|EIGHTEEN|ELEVEN|FIFTEEN|FIVE|FOUR|FOURTEEN|NINE|NINETEEN|ONE|SEVEN|SEVENTEEN|SIX|
SIXTEEN|TEN|THIRTEEN|THREE|TWELVE|TWENTY(-(FOUR|ONE|THREE|TWO)|)|TWO|ZERO)|JANUARY|JULY|JUNE|MARCH|
MAY|NOVEMBER|OCTOBER|SEPTEMBER))|VARIATION INDICATOR)|IMAGE OF( OR APPROXIMATELY EQUAL TO|)|IMP|
IMPERIAL ARAMAIC (LETTER (ALEPH|AYIN|BETH|DALETH|GIMEL|HE|HETH|KAPH|LAMEDH|MEM|NUN|PE|QOPH|RESH|
SADHE|SAMEKH|SHIN|TAW|TETH|WAW|YODH|ZAYIN)|NUMBER (ONE( (HUNDRED|THOUSAND)|)|TEN( THOUSAND|)|THREE|
TWENTY|TWO)|SECTION SIGN)|(INBOX|OUTBOX) TRAY|(INCOMING|PEN OVER STAMPED|STAMPED) ENVELOPE|
(INCOMPLETE|TIE OVER) INFINITY|INCREASES AS|INCREMENT|IND|INDEX( POINTING AT THE VIEWER|)|
INDIC SIYAQ ((ALTERNATE LAKH|LAKH|RUPEE) MARK|FRACTION (ONE (HALF|QUARTER)|THREE QUARTERS)|
NUMBER (ALTERNATE (ONE|TEN THOUSAND|TWO)|(EIGHT|FIVE|FOUR|NINE|ONE|SEVEN|SIX|THREE|TWO)( (HUNDRED|
THOUSAND)|)|(EIGHTY|FIFTY|FORTY|NINETY|SEVENTY|SIXTY|TEN|THIRTY|TWENTY)( THOUSAND|)|KAROR|KARORAN|
LAKH|LAKHAN|PREFIXED (EIGHT|FIVE|FOUR|NINE|ONE|SEVEN|SIX|THREE|TWO))|PLACEHOLDER)|
INFINITY( NEGATED WITH VERTICAL BAR|)|INFORMATION (DESK PERSON|SEPARATOR (FOUR|ONE|THREE|TWO)|
SOURCE)|INPUT SYMBOL FOR (LATIN ((CAPITAL|SMALL) LETTERS|LETTERS)|NUMBERS|SYMBOLS)|
INSCRIPTIONAL (PAHLAVI (LETTER (ALEPH|BETH|DALETH|GIMEL|HE|HETH|KAPH|LAMEDH|MEM-QOPH|NUN|PE|SADHE|
SAMEKH|SHIN|TAW|TETH|WAW-AYIN-RESH|YODH|ZAYIN)|NUMBER (FOUR|ONE( (HUNDRED|THOUSAND)|)|TEN|THREE|
TWENTY|TWO))|PARTHIAN (LETTER (ALEPH|AYIN|BETH|DALETH|GIMEL|HE|HETH|KAPH|LAMEDH|MEM|NUN|PE|QOPH|
RESH|SADHE|SAMEKH|SHIN|TAW|TETH|WAW|YODH|ZAYIN)|NUMBER (FOUR|ONE( (HUNDRED|THOUSAND)|)|TEN|THREE|
TWENTY|TWO)))|INTEGRAL( (AROUND A POINT OPERATOR|AVERAGE WITH SLASH|EXTENSION|WITH (DOUBLE STROKE|
INTERSECTION|LEFTWARDS ARROW WITH HOOK|OVERBAR|TIMES SIGN|UNDERBAR|UNION))|)|INTERCALATE|(INTERIOR|
RIGHTHAND INTERIOR|SHUFFLE|SMASH|VECTOR OR CROSS|WREATH) PRODUCT|INTERLINEAR ANNOTATION (ANCHOR|
SEPARATOR|TERMINATOR)|INTERROBANG|INTERSECTION( (ABOVE (BAR ABOVE UNION|UNION)|
BESIDE AND JOINED WITH INTERSECTION|WITH (DOT|LOGICAL AND|OVERBAR))|)|INVERSE (BULLET|CHECK MARK|
CHECKER BOARD FILL|DOWNWARDS ARROW WITH TIP LEFTWARDS|MEDIUM SHADE|WHITE CIRCLE)|
INVERTED ((EXCLAMATION|QUESTION) MARK|INTERROBANG|LAZY S|LOW KAVYKA( WITH KAVYKA ABOVE|)|OHM SIGN|
PENTAGRAM|UNDERTIE)|INVISIBLE (PLUS|SEPARATOR|TIMES)|(IZAKAYA |JACK-O-)LANTERN|JAPANESE ((BANK|
INDUSTRIAL STANDARD) SYMBOL|CASTLE|DOLLS|GOBLIN|OGRE|POST OFFICE|SYMBOL FOR BEGINNER)|JAR|
JAVANESE (CONSONANT SIGN (CAKRA|KERET|PENGKAL)|DIGIT (EIGHT|FIVE|FOUR|NINE|ONE|SEVEN|SIX|THREE|TWO|
ZERO)|(LEFT|RIGHT) RERENGGAN|LETTER (A|AI|(BA|CA|GA|NA|NYA|TA)( MURDA|)|(DA|DDA|JA|TTA)( MAHAPRANA|
)|E|HA|I( KAWI|)|II|KA( (MURDA|SASAK)|)|LA|MA|NGA( LELET( RASWADI|)|)|O|PA( (CEREK|MURDA)|)|
RA( AGUNG|)|SA( (MAHAPRANA|MURDA)|)|U|WA|YA)|PADA (ADEG( ADEG|)|ANDAP|ISEN-ISEN|LINGSA|LUHUR|
LUNGSI|MADYA|PANGKAT|PISELEH|TIRTA TUMETES|WINDU)|PANGKON|PANGRANGKEP|SIGN (CECAK( TELU|)|LAYAR|
PANYANGGA|WIGNYAN)|TURNED PADA PISELEH|VOWEL SIGN (DIRGA MURE|PEPET|SUKU( MENDUT|)|TALING|TARUNG|
TOLONG|WULU( MELIK|)))|JEANS|JIGSAW PUZZLE PIECE|JOIN|JOYSTICK|JUGGLING|JUNO|JUPITER|KAABA|
KAITHI ((ABBREVIATION|ENUMERATION) SIGN|DANDA|DOUBLE (DANDA|SECTION MARK)|LETTER (A|AA|AI|AU|BA|
BHA|CA|CHA|DA|DDA|DDDHA|DDHA|DHA|E|GA|GHA|HA|I|II|JA|JHA|KA|KHA|LA|MA|NA|NGA|NNA|NYA|O|PA|PHA|RA|
RHA|SA|SHA|SSA|TA|THA|TTA|TTHA|U|UU|VA|YA)|NUMBER SIGN( ABOVE|)|SECTION MARK|SIGN (ANUSVARA|
CANDRABINDU|NUKTA|VIRAMA|VISARGA)|VOWEL SIGN (AA|AI|AU|E|I|II|O|U|UU|VOCALIC R))|KANGAROO|
KANGXI RADICAL (AGAIN|AND|ARRIVE|ARROW|AXE|BADGER|BAMBOO|BEAN|BIG|BIRD|BITTER|BLACK|BLOOD|BLUE|
BOAT|BODY|BOLT OF CLOTH|BONE|BOW|BRANCH|BRISTLE|BRUSH|CART|CAULDRON|CAVE|CHILD|CITY|CLAN|CLAW|
CLIFF|CLOTHES|COLOR|COMPARE|CORPSE|COVER|COW|DEATH|DEER|DIPPER|DISH|DISTINGUISH|DIVINATION|DO NOT|
DOG|DOOR|DOT|DOTTED (CLIFF|TENT)|DOUBLE X|(DOWN|OPEN|RIGHT OPEN) BOX|DRAGON|DRUM|DRY|EAR|EARTH|EAT|
EIGHT|EMBROIDERY|ENCLOSURE|ENTER|EVEN|EVENING|EYE|FACE|FANG|FATHER|FEATHER|FIELD|FIGHT|FIRE|FISH|
FLUTE|FLY|FOOT|FRAGRANT|FROG|FUR|GATE|GHOST|GO( SLOWLY|)|GOLD|GRAIN|GRASS|HAIR|HALBERD|
HALF TREE TRUNK|HAND|HEAD|HEART|HEMP|HIDING ENCLOSURE|HOOK|HORN|HORSE|ICE|INCH|INSECT|JADE|JAR|
KNIFE|LACK|LAME|LEAF|LEATHER|LEEK|LEGS|LID|LIFE|LINE|LONG( STRIDE|)|MAN|MEAT|MELON|MILLET|MINISTER|
MOON|MORNING|MORTAR|MOUND|MOUNTAIN|MOUTH|NET|NOSE|NOT|OLD|ONE|ONESELF|OPPOSE|PIG|PLOW|POWER|
PRIVATE|PROFOUND|RAIN|RAP|RAT|RED|RICE|RIVER|ROOF|RUN|SACRIFICIAL WINE|SALT|SAY|SCHOLAR|SCRIPT|
SEAL|SECOND|SEE|SELF|SHEEP|SHELL|SHOOT|SHORT (TAILED BIRD|THREAD)|SICKNESS|SILK|SKIN|SLASH|SLAVE|
SLICE|SMALL|SNOUT|SOUND|SPEAR|SPEECH|SPIRIT|SPOON|SPROUT|SQUARE|STAND|STEAM|STEP|STONE|STOP|
STOPPING|SUN|SWEET|TABLE|TALL|TANNED LEATHER|TEN|TIGER|TILE|TONGUE|TOOTH|TRACK|TREE|TRIPOD|TURBAN|
TURTLE|TWO( HANDS|)|USE|VALLEY|VILLAGE|WALK( ENCLOSURE|)|WATER|WEAPON|WEST|WHEAT|WHITE|WIND|WINE|
WOMAN|WORK|WRAP|WRONG|YELLOW)|KANNADA ((AI LENGTH|LENGTH) MARK|DIGIT (EIGHT|FIVE|FOUR|NINE|ONE|
SEVEN|SIX|THREE|TWO|ZERO)|LETTER (A|AA|AI|AU|BA|BHA|CA|CHA|DA|DDA|DDHA|DHA|E|EE|FA|GA|GHA|HA|I|II|
JA|JHA|KA|KHA|LA|LLA|LLLA|MA|NA|NAKAARA POLLU|NGA|NNA|NYA|O|OO|PA|PHA|RA|RRA|SA|SHA|SSA|TA|THA|TTA|
TTHA|U|UU|VA|VOCALIC (L|LL|R|RR)|YA)|SIGN (ANUSVARA|AVAGRAHA|CANDRABINDU|JIHVAMULIYA|NUKTA|SIDDHAM|
SPACING CANDRABINDU|UPADHMANIYA|VIRAMA|VISARGA)|VOWEL SIGN (AA|AI|AU|E|EE|I|II|O|OO|U|UU|
VOCALIC (L|LL|R|RR)))|KATAKANA( (DIGRAPH KOTO|(ITERATION|VOICED ITERATION) MARK|LETTER( (A|
ARCHAIC (E|WU|YE|YI)|BA|BE|BI|BO|BU|DA|DE|DI|DO|DU|E|GA|GE|GI|GO|GU|HA|HE|HI|HO|HU|I|KA|KE|KI|KO|
KU|MA|ME|MI|MINNAN( (NASALIZED( (TONE(-(1~5|7|8))))|TONE(-(2~5|7|8))))|MO|MU|N|NA|NE|NI|NO|NU|O|PA|
PE|PI|PO|PU|RA|RE|RI|RO|RU|SA|SE|SI|SMALL (A|E|HA|HE|HI|HO|HU|I|KA|KE|KU|MU|N|NU|O|RA|RE|RI|RO|RU|
SI|SU|TO|TU|U|WA|WE|WI|WO|YA|YO|YU)|SO|SU|TA|TE|TI|TO|TU|U|VA|VE|VI|VO|VU|WA|WE|WI|WO|YA|YO|YU|ZA|
ZE|ZI|ZO|ZU))|MIDDLE DOT)|-HIRAGANA (DOUBLE HYPHEN|(PROLONGED|SEMI-VOICED|VOICED) SOUND MARK))|
KAYAH LI (DIGIT (EIGHT|FIVE|FOUR|NINE|ONE|SEVEN|SIX|THREE|TWO|ZERO)|LETTER (A|BA|CA|DA|GA|HA|HTA|I|
KA|KHA|LA|MA|NA|NGA|NYA|OE|OO|PA|PHA|RA|SA|SHA|TA|THA|VA|WA|YA|ZA)|SIGN (CWI|SHYA)|
TONE (CALYA( PLOPHU|)|PLOPHU)|VOWEL (E|EE|O|U|UE))|KEY|KEYBOARD( AND MOUSE|)|KEYCAP TEN|
KHAROSHTHI (DIGIT (FOUR|ONE|THREE|TWO)|FRACTION ONE HALF|LETTER (A|BA|BHA|CA|CHA|DA|DDA|DDHA|DHA|
GA|GHA|HA|JA|KA|KHA|KKA|LA|MA|NA|NNA|NYA|PA|PHA|RA|SA|SHA|SSA|TA|THA|TTA|TTHA|TTTA|TTTHA|VA|VHA|YA|
ZA)|NUMBER (ONE (HUNDRED|THOUSAND)|TEN|TWENTY)|PUNCTUATION (CIRCLE|CRESCENT BAR|DANDA|DOT|
DOUBLE DANDA|LINES|LOTUS|MANGALAM|SMALL CIRCLE)|SIGN (ANUSVARA|BAR ABOVE|CAUDA|(DOT|
DOUBLE RING) BELOW|VISARGA)|VIRAMA|VOWEL (LENGTH MARK|SIGN (E|I|O|U|VOCALIC R)))|
KHITAN SMALL SCRIPT FILLER|KHMER (CURRENCY SYMBOL RIEL|DIGIT (EIGHT|FIVE|FOUR|NINE|ONE|SEVEN|SIX|
THREE|TWO|ZERO)|INDEPENDENT VOWEL (LY|LYY|QAA|QAI|QAQ|QAU|QE|QI|QII|QOO TYPE (ONE|TWO)|QU|QUK|QUU|
QUUV|RY|RYY)|LETTER (BA|CA|CHA|CHO|CO|DA|DO|HA|KA|KHA|KHO|KO|LA|LO|MO|NGO|NNO|NO|NYO|PHA|PHO|PO|QA|
RO|SA|SHA|SSO|TA|THA|THO|TO|TTHA|TTHO|VO|YO)|SIGN (AHSDA|ATTHACAN|AVAKRAHASANYA|BANTOC|BARIYOOSAN|
BATHAMASAT|BEYYAL|CAMNUC PII KUUH|COENG|KAKABAT|KHAN|KOOMUUT|LEK TOO|MUUSIKATOAN|NIKAHIT|
PHNAEK MUAN|REAHMUK|ROBAT|SAMYOK SANNYA|TOANDAKHIAT|TRIISAP|VIRIAM|YUUKALEAPINTU)|SYMBOL ((BEI|
BUON|MUOY|PII) (KOET|ROC)|DAP( (KOET|ROC)|-(BEI|BUON|MUOY|PII|PRAM) (KOET|ROC))|LEK ATTAK (BEI|
BUON|MUOY|PII|PRAM(-(BEI|BUON|MUOY|PII)|)|SON)|PATHAMASAT|PRAM( (KOET|ROC)|-(BEI|BUON|MUOY|
PII) (KOET|ROC))|TUTEYASAT)|VOWEL (INHERENT (AA|AQ)|SIGN (AA|AE|AI|AU|E|I|IE|II|OE|OO|U|UA|UU|Y|YA|
YY)))|KHOJKI (ABBREVIATION SIGN|DANDA|DOUBLE (DANDA|SECTION MARK)|LETTER (A|AA|AI|AU|BA|BBA|BHA|CA|
CHA|DA|DDA|DDDA|DDHA|DHA|E|GA|GGA|GHA|HA|I|JA|JJA|KA|KHA|LA|LLA|MA|NA|NGA|NNA|NYA|O|PA|PHA|RA|SA|
TA|THA|TTA|TTHA|U|VA|YA)|SECTION MARK|SIGN (ANUSVARA|NUKTA|SHADDA|SUKUN|VIRAMA)|VOWEL SIGN (AA|AI|
AU|E|I|II|O|U)|WORD SEPARATOR)|KHUDAWADI (DIGIT (EIGHT|FIVE|FOUR|NINE|ONE|SEVEN|SIX|THREE|TWO|
ZERO)|LETTER (A|AA|AI|AU|BA|BBA|BHA|CA|CHA|DA|DDA|DDDA|DDHA|DHA|E|GA|GGA|GHA|HA|I|II|JA|JHA|JJA|KA|
KHA|LA|MA|NA|NGA|NNA|NYA|O|PA|PHA|RA|RRA|SA|SHA|TA|THA|TTA|TTHA|U|UU|VA|YA)|SIGN (ANUSVARA|NUKTA|
VIRAMA)|VOWEL SIGN (AA|AI|AU|E|I|II|O|U|UU))|KIMONO|KISS( MARK|)|
KISSING (CAT FACE WITH CLOSED EYES|FACE( WITH (CLOSED|SMILING) EYES|))|KITE|KIWIFRUIT|KNOT|KOALA|
KRONOS|LAB COAT|LABEL|LADDER|LADY BEETLE|LANGUAGE TAG|LAO (CANCELLATION MARK|DIGIT (EIGHT|FIVE|
FOUR|NINE|ONE|SEVEN|SIX|THREE|TWO|ZERO)|ELLIPSIS|HO (MO|NO)|KO LA|LETTER (BO|CO|DO|FO (FAY|FON|
SUNG|TAM)|(HO|KHO|PHO|SO|THO) (SUNG|TAM)|KHMU (GO|NYO)|KO|LO( (LING|LOOT)|)|MO|NGO|NO|NYO|O|
PALI (BHA|CHA|DDA|DDHA|DHA|GHA|JHA|LLA|NNA|NYA|TTA|TTHA)|PO|RO|SANSKRIT (SHA|SSA)|TO|WO|YO)|
NIGGAHITA|SEMIVOWEL SIGN (LO|NYO)|SIGN PALI VIRAMA|TONE MAI (CATAWA|EK|THO|TI)|VOWEL SIGN (A|AA|AI|
AM|AY|E|EI|I|II|MAI (KAN|KON)|O|U|UU|Y|YY))|LARGE ((BLUE|ORANGE) (CIRCLE|DIAMOND|SQUARE)|(BROWN|
GREEN|PURPLE|RED|YELLOW) (CIRCLE|SQUARE)|CIRCLE|(DOWN|UP) TACK|(LEFT TRIANGLE|
TRIPLE VERTICAL BAR) OPERATOR|ONE (DOT OVER TWO DOTS|RING OVER TWO RINGS) PUNCTUATION|
TWO (DOTS OVER ONE DOT|RINGS OVER ONE RING) PUNCTUATION)|(LARGER THAN|NORMAL SUBGROUP OF|
SMALLER THAN)( OR EQUAL TO|)|LAST QUARTER MOON( (SYMBOL|WITH FACE)|)|
LATIN (CAPITAL (LETTER (A( WITH (ACUTE|(BREVE|CIRCUMFLEX)( AND (ACUTE|DOT BELOW|GRAVE|HOOK ABOVE|
TILDE)|)|CARON|DIAERESIS( AND MACRON|)|DOT (ABOVE( AND MACRON|)|BELOW)|DOUBLE GRAVE|GRAVE|
HOOK ABOVE|INVERTED BREVE|MACRON|OGONEK|RING (ABOVE( AND ACUTE|)|BELOW)|STROKE|TILDE)|)|AA|
AE( WITH (ACUTE|MACRON)|)|AFRICAN D|ALPHA|ANGLICANA W|AO|AU|AV( WITH HORIZONTAL BAR|)|AY|
B( WITH (DOT (ABOVE|BELOW)|FLOURISH|HOOK|LINE BELOW|STROKE|TOPBAR)|)|BETA|BROKEN L|C( WITH (ACUTE|
BAR|CARON|CEDILLA( AND ACUTE|)|CIRCUMFLEX|DOT ABOVE|HOOK|PALATAL HOOK|STROKE)|)|CHI|
CLOSED INSULAR G|CON|CUATRILLO( WITH COMMA|)|D( WITH (CARON|CEDILLA|(CIRCUMFLEX|LINE) BELOW|
DOT (ABOVE|BELOW)|HOOK|SHORT STROKE OVERLAY|SMALL LETTER Z( WITH CARON|)|STROKE|TOPBAR)|)|
DZ( WITH CARON|)|E( WITH (ACUTE|BREVE|CARON|CEDILLA( AND BREVE|)|CIRCUMFLEX( (AND (ACUTE|DOT BELOW|
GRAVE|HOOK ABOVE|TILDE)|BELOW)|)|DIAERESIS|DOT (ABOVE|BELOW)|DOUBLE GRAVE|GRAVE|HOOK ABOVE|
INVERTED BREVE|MACRON( AND (ACUTE|GRAVE)|)|OGONEK|STROKE|TILDE( BELOW|))|)|EGYPTOLOGICAL (AIN|
ALEF)|ENG|ESH|ET|ETH|EZH( (REVERSED|WITH CARON)|)|F( WITH (DOT ABOVE|HOOK|STROKE)|)|G( WITH (ACUTE|
BREVE|CARON|CEDILLA|CIRCUMFLEX|DOT ABOVE|HOOK|MACRON|OBLIQUE STROKE|STROKE)|)|GAMMA|GHA|GLOTTAL (A|
I|STOP|U)|H( WITH (BREVE BELOW|CARON|CEDILLA|CIRCUMFLEX|DESCENDER|DIAERESIS|DOT (ABOVE|BELOW)|HOOK|
STROKE)|)|HALF H|HENG|HWAIR|I( WITH (ACUTE|BREVE|CARON|CIRCUMFLEX|DIAERESIS( AND ACUTE|)|
DOT (ABOVE|BELOW)|DOUBLE GRAVE|GRAVE|HOOK ABOVE|INVERTED BREVE|MACRON|OGONEK|STROKE|TILDE( BELOW|
))|)|INSULAR (D|F|G|R|S|T)|IOTA|IS|J( WITH (CIRCUMFLEX|CROSSED-TAIL|STROKE)|)|K( WITH (ACUTE|CARON|
CEDILLA|DESCENDER|(DIAGONAL|OBLIQUE) STROKE|(DOT|LINE) BELOW|HOOK|STROKE( AND DIAGONAL STROKE|))|)|
L( WITH (ACUTE|BAR|BELT|CARON|CEDILLA|(CIRCUMFLEX|LINE) BELOW|DOT BELOW( AND MACRON|)|DOUBLE BAR|
HIGH STROKE|MIDDLE (DOT|TILDE)|SMALL LETTER J|STROKE)|)|LJ|M( WITH (ACUTE|DOT (ABOVE|BELOW)|HOOK)|
)|MIDDLE( SCOTS S|-WELSH (LL|V))|N( WITH (ACUTE|CARON|CEDILLA|(CIRCUMFLEX|LINE) BELOW|DESCENDER|
DOT (ABOVE|BELOW)|GRAVE|LEFT HOOK|LONG RIGHT LEG|OBLIQUE STROKE|SMALL LETTER J|TILDE)|)|NJ|
O( WITH (ACUTE|BREVE|CARON|(CIRCUMFLEX|HORN)( AND (ACUTE|DOT BELOW|GRAVE|HOOK ABOVE|TILDE)|)|
(DIAERESIS|OGONEK)( AND MACRON|)|DOT (ABOVE( AND MACRON|)|BELOW)|DOUBLE (ACUTE|GRAVE)|GRAVE|
HOOK ABOVE|INVERTED BREVE|LONG STROKE OVERLAY|LOOP|MACRON( AND (ACUTE|GRAVE)|)|MIDDLE TILDE|
STROKE( AND ACUTE|)|TILDE( AND (ACUTE|DIAERESIS|MACRON)|))|)|OI|OLD POLISH O|OMEGA|OO|OPEN (E|O)|
OU|P( WITH (ACUTE|DOT ABOVE|FLOURISH|HOOK|SQUIRREL TAIL|STROKE( THROUGH DESCENDER|))|)|
Q( WITH (DIAGONAL STROKE|STROKE THROUGH DESCENDER)|)|R( (ROTUNDA|WITH (ACUTE|CARON|CEDILLA|
DOT (ABOVE|BELOW( AND MACRON|))|DOUBLE GRAVE|INVERTED BREVE|LINE BELOW|OBLIQUE STROKE|STROKE|
TAIL))|)|REVERSED (C WITH DOT|E|HALF H|OPEN E)|RUM ROTUNDA|S( WITH ((ACUTE|CARON)( AND DOT ABOVE|)|
CEDILLA|CIRCUMFLEX|COMMA BELOW|DOT (ABOVE|BELOW( AND DOT ABOVE|))|HOOK|OBLIQUE STROKE|
SHORT STROKE OVERLAY|SWASH TAIL)|)|SALTILLO|SCHWA|SCRIPT G|SHARP S|SIGMOID S|SMALL (CAPITAL I|
Q WITH HOOK TAIL)|T( WITH (CARON|CEDILLA|(CIRCUMFLEX|COMMA|LINE) BELOW|DIAGONAL STROKE|DOT (ABOVE|
BELOW)|HOOK|RETROFLEX HOOK|STROKE)|)|THORN( WITH STROKE( THROUGH DESCENDER|)|)|TONE (FIVE|SIX|TWO)|
TRESILLO|TURNED (A|ALPHA|H|INSULAR G|K|L|M|T|V)|TZ|U( (BAR|WITH (ACUTE|BREVE|CARON|
CIRCUMFLEX( BELOW|)|DIAERESIS( (AND (ACUTE|CARON|GRAVE|MACRON)|BELOW)|)|DOT BELOW|DOUBLE (ACUTE|
GRAVE)|GRAVE|(HOOK|RING) ABOVE|HORN( AND (ACUTE|DOT BELOW|GRAVE|HOOK ABOVE|TILDE)|)|INVERTED BREVE|
MACRON( AND DIAERESIS|)|OGONEK|STROKE|TILDE( (AND ACUTE|BELOW)|)))|)|UPSILON|
V( WITH (DIAGONAL STROKE|DOT BELOW|HOOK|TILDE)|)|VEND|VISIGOTHIC Z|VOLAPUK (AE|OE|UE)|VY|
W( WITH (ACUTE|CIRCUMFLEX|DIAERESIS|DOT (ABOVE|BELOW)|GRAVE|HOOK)|)|WYNN|X( WITH (DIAERESIS|
DOT ABOVE)|)|Y( WITH (ACUTE|CIRCUMFLEX|DIAERESIS|DOT (ABOVE|BELOW)|GRAVE|HOOK( ABOVE|)|LOOP|MACRON|
STROKE|TILDE)|)|YOGH|Z( WITH (ACUTE|CARON|CIRCUMFLEX|DESCENDER|DOT (ABOVE|BELOW)|HOOK|LINE BELOW|
PALATAL HOOK|STROKE|SWASH TAIL)|))|LIGATURE (IJ|OE))|CROSS|EPIGRAPHIC LETTER (ARCHAIC M|I LONGA|
INVERTED M|REVERSED (F|P)|SIDEWAYS I)|LETTER (AIN|(ALVEOLAR|DENTAL|LATERAL) CLICK|
BIDENTAL PERCUSSIVE|BILABIAL (CLICK|PERCUSSIVE)|GLOTTAL STOP( WITH STROKE|)|
INVERTED GLOTTAL STOP( WITH (CURL|STROKE)|)|PHARYNGEAL VOICED FRICATIVE|
RETROFLEX CLICK( WITH RETROFLEX HOOK|)|REVERSED (ESH LOOP|GLOTTAL STOP WITH STROKE)|
SINOLOGICAL DOT|SMALL CAPITAL (A|AE|B|BARRED B|C|D|E|ETH|EZH|F|G( WITH HOOK|)|H|I|INVERTED R|J|K|
L( WITH (BELT|STROKE)|)|M|N|O|OE|OPEN O|OU|P|Q|R( WITH RIGHT LEG|)|REVERSED (N|R)|RUM|S|T|
TURNED (E|G|K|M|R)|U|V|W|Y|Z)|STRETCHED C( WITH CURL|)|TWO WITH STROKE|VOICED LARYNGEAL SPIRANT|
WYNN|YR)|SMALL (CAPITAL LETTER (I|U) WITH STROKE|LETTER (A( (REVERSED-SCHWA|WITH (ACUTE|(BREVE|
CIRCUMFLEX)( AND (ACUTE|DOT BELOW|GRAVE|HOOK ABOVE|TILDE)|)|CARON|DIAERESIS( AND MACRON|)|
DOT (ABOVE( AND MACRON|)|BELOW)|DOUBLE GRAVE|GRAVE|HOOK ABOVE|INVERTED BREVE|MACRON|OGONEK|
RETROFLEX HOOK|RIGHT HALF RING|RING (ABOVE( AND ACUTE|)|BELOW)|STROKE|TILDE))|)|AA|AE( WITH (ACUTE|
MACRON)|)|(ALPHA|LEZH|TS DIGRAPH)( WITH RETROFLEX HOOK|)|ANGLICANA W|AO|AU|AV( WITH HORIZONTAL BAR|
)|AY|B( WITH (DOT (ABOVE|BELOW)|FLOURISH|HOOK|LINE BELOW|MIDDLE TILDE|PALATAL HOOK|STROKE|TOPBAR)|
)|BARRED (ALPHA|E|O)|BASELINE ESH|BETA|BLACKLETTER (E|O( WITH STROKE|))|(BOTTOM|TOP) HALF O|
BROKEN L|C( WITH (ACUTE|BAR|CARON|CEDILLA( AND ACUTE|)|CIRCUMFLEX|CURL|DOT ABOVE|HOOK|(PALATAL|
RETROFLEX) HOOK|STROKE)|)|CHI( WITH LOW (LEFT SERIF|RIGHT RING)|)|CLOSED (INSULAR G|OMEGA|OPEN E|
REVERSED OPEN E)|CON|CUATRILLO( WITH COMMA|)|D( WITH (CARON|CEDILLA|(CIRCUMFLEX|LINE) BELOW|CURL|
DOT (ABOVE|BELOW)|HOOK( AND TAIL|)|MIDDLE TILDE|PALATAL HOOK|SHORT STROKE OVERLAY|STROKE|TAIL|
TOPBAR)|)|(DB|LS|LZ|QP) DIGRAPH|DELTA|(DEZH|TESH) DIGRAPH( WITH (PALATAL|RETROFLEX) HOOK|)|
DOTLESS (I|J( WITH STROKE( AND HOOK|)|))|DOUBLE (R( WITH CROSSED-TAIL|)|THORN|WYNN)|DUM|
DZ( (DIGRAPH( WITH (CURL|RETROFLEX HOOK)|)|WITH CARON)|)|E( WITH (ACUTE|BREVE|CARON|
CEDILLA( AND BREVE|)|CIRCUMFLEX( (AND (ACUTE|DOT BELOW|GRAVE|HOOK ABOVE|TILDE)|BELOW)|)|DIAERESIS|
DOT (ABOVE|BELOW)|DOUBLE GRAVE|FLOURISH|GRAVE|HOOK ABOVE|INVERTED BREVE|MACRON( AND (ACUTE|GRAVE)|
)|NOTCH|OGONEK|RETROFLEX HOOK|STROKE|TILDE( BELOW|))|)|EGYPTOLOGICAL (AIN|ALEF)|
ENG( WITH (CROSSED-TAIL|PALATAL HOOK)|)|ESH( WITH (CURL|DOUBLE BAR( AND CURL|)|(PALATAL|
RETROFLEX) HOOK)|)|ET|ETH|EZH( (REVERSED|WITH (CARON|CURL|(PALATAL|RETROFLEX) HOOK|TAIL))|)|
F( WITH (DOT ABOVE|HOOK|MIDDLE TILDE|PALATAL HOOK|STROKE)|)|FENG DIGRAPH( WITH TRILL|)|
G( WITH (ACUTE|BREVE|CARON|CEDILLA|CIRCUMFLEX|DOT ABOVE|HOOK|MACRON|OBLIQUE STROKE|PALATAL HOOK|
STROKE)|)|GAMMA|GHA|GLOTTAL (A|I|STOP|U)|H( WITH ((BREVE|LINE) BELOW|CARON|CEDILLA|CIRCUMFLEX|
DESCENDER|DIAERESIS|DOT (ABOVE|BELOW)|HOOK|PALATAL HOOK|STROKE)|)|HALF H|HENG( WITH HOOK|)|HV|
I( WITH (ACUTE|BREVE|CARON|CIRCUMFLEX|DIAERESIS( AND ACUTE|)|DOT BELOW|DOUBLE GRAVE|GRAVE|
HOOK ABOVE|INVERTED BREVE|MACRON|OGONEK|RETROFLEX HOOK|STROKE( AND RETROFLEX HOOK|)|TILDE( BELOW|
))|)|INSULAR (D|F|G|R|S|T)|INVERTED (ALPHA|OE)|(IOTA|UPSILON)( WITH STROKE|)|IOTIFIED E|IS|
J( WITH (CARON|CIRCUMFLEX|CROSSED-TAIL|STROKE)|)|K( WITH (ACUTE|CARON|CEDILLA|DESCENDER|(DIAGONAL|
OBLIQUE) STROKE|(DOT|LINE) BELOW|HOOK|PALATAL HOOK|STROKE( AND DIAGONAL STROKE|))|)|KRA|
L( WITH (ACUTE|BAR|BELT( AND PALATAL HOOK|)|CARON|CEDILLA|(CIRCUMFLEX|LINE) BELOW|CURL|
DOT BELOW( AND MACRON|)|DOUBLE (BAR|MIDDLE TILDE)|FISHHOOK|HIGH STROKE|INVERTED LAZY S|MIDDLE (DOT|
RING|TILDE)|PALATAL HOOK|RETROFLEX HOOK( AND BELT|)|STROKE)|)|LAMBDA WITH STROKE|LENIS F|LJ|
LONG S( WITH ((DIAGONAL|HIGH) STROKE|DOT ABOVE)|)|LUM|M( WITH (ACUTE|CROSSED-TAIL|DOT (ABOVE|
BELOW)|HOOK|MIDDLE TILDE|PALATAL HOOK)|)|MIDDLE( SCOTS S|-WELSH (LL|V))|MUM|
N( (PRECEDED BY APOSTROPHE|WITH (ACUTE|CARON|CEDILLA|(CIRCUMFLEX|LINE) BELOW|CROSSED-TAIL|CURL|
DESCENDER|DOT (ABOVE|BELOW)|GRAVE|(LEFT|PALATAL|RETROFLEX) HOOK|LONG RIGHT LEG|MIDDLE TILDE|
OBLIQUE STROKE|TILDE))|)|NJ|NUM|O( WITH (ACUTE|BREVE|CARON|(CIRCUMFLEX|HORN)( AND (ACUTE|DOT BELOW|
GRAVE|HOOK ABOVE|TILDE)|)|(DIAERESIS|OGONEK)( AND MACRON|)|DOT (ABOVE( AND MACRON|)|BELOW)|
DOUBLE (ACUTE|GRAVE)|GRAVE|HOOK ABOVE|INVERTED BREVE|LONG STROKE OVERLAY|LOOP|LOW RING INSIDE|
MACRON( AND (ACUTE|GRAVE)|)|RETROFLEX HOOK|STROKE( AND ACUTE|)|TILDE( AND (ACUTE|DIAERESIS|MACRON)|
))|)|OI|OLD POLISH O|OMEGA|OO|OPEN (E( WITH RETROFLEX HOOK|)|O( WITH (RETROFLEX HOOK|STROKE)|)|OE)|
OU|P( WITH (ACUTE|DOT ABOVE|FLOURISH|HOOK|MIDDLE TILDE|PALATAL HOOK|SQUIRREL TAIL|
STROKE( THROUGH DESCENDER|))|)|PHI|Q( WITH (DIAGONAL STROKE|HOOK( TAIL|)|STROKE THROUGH DESCENDER)|
)|R( (ROTUNDA|WITH (ACUTE|CARON|CEDILLA|CROSSED-TAIL|DOT (ABOVE|BELOW( AND MACRON|))|DOUBLE GRAVE|
FISHHOOK( AND (MIDDLE TILDE|PALATAL HOOK)|)|INVERTED BREVE|LINE BELOW|LONG LEG|MIDDLE TILDE|
OBLIQUE STROKE|PALATAL HOOK|STROKE|TAIL)|WITHOUT HANDLE)|)|RAMS HORN|REVERSED (C( WITH DOT|)|E|ENG|
HALF H|K|OPEN E( WITH (HOOK|RETROFLEX HOOK)|)|R WITH FISHHOOK|SCRIPT G)|RUM( ROTUNDA|)|
S( WITH ((ACUTE|CARON)( AND DOT ABOVE|)|CEDILLA|CIRCUMFLEX|COMMA BELOW|CURL|DOT (ABOVE|
BELOW( AND DOT ABOVE|))|HOOK|MIDDLE TILDE|OBLIQUE STROKE|PALATAL HOOK|SHORT STROKE OVERLAY|
SWASH TAIL)|)|SAKHA YAT|SALTILLO|SCHWA( WITH (HOOK|RETROFLEX HOOK)|)|SCRIPT (G( WITH CROSSED-TAIL|
)|R( WITH RING|))|SHARP S|SIDEWAYS (DIAERESIZED U|O( WITH STROKE|)|OPEN O|TURNED M|U)|SIGMOID S|
SQUAT REVERSED ESH|STIRRUP R|T( WITH (CARON|CEDILLA|(CIRCUMFLEX|COMMA|LINE) BELOW|CURL|DIAERESIS|
DIAGONAL STROKE|DOT (ABOVE|BELOW)|HOOK( AND RETROFLEX HOOK|)|MIDDLE TILDE|(PALATAL|RETROFLEX) HOOK|
STROKE)|)|TAILLESS PHI|TC DIGRAPH WITH CURL|TH WITH STRIKETHROUGH|
THORN( WITH STROKE( THROUGH DESCENDER|)|)|TONE (FIVE|SIX|TWO)|TRESILLO|TUM|TURNED (A|AE|ALPHA|
DELTA|E|G|H( WITH FISHHOOK( AND TAIL|)|)|I|INSULAR G|K|L|M( WITH LONG LEG|)|O OPEN-O( WITH STROKE|
)|OE( WITH (HORIZONTAL STROKE|STROKE)|)|OPEN E|R( WITH (HOOK|LONG LEG( AND RETROFLEX HOOK|)|
MIDDLE TILDE|PALATAL HOOK|TAIL)|)|T( WITH CURL|)|UI|V|W|Y( WITH BELT|))|TZ|
U( (BAR( WITH SHORT RIGHT LEG|)|WITH (ACUTE|BREVE|CARON|CIRCUMFLEX( BELOW|)|DIAERESIS( (AND (ACUTE|
CARON|GRAVE|MACRON)|BELOW)|)|DOT BELOW|DOUBLE (ACUTE|GRAVE)|GRAVE|(HOOK|RING) ABOVE|
HORN( AND (ACUTE|DOT BELOW|GRAVE|HOOK ABOVE|TILDE)|)|INVERTED BREVE|(LEFT|RETROFLEX) HOOK|
MACRON( AND DIAERESIS|)|OGONEK|SHORT RIGHT LEG|STROKE|TILDE( (AND ACUTE|BELOW)|)))|)|UE|UI|UM|UO|
V( WITH (CURL|DIAGONAL STROKE|DOT BELOW|HOOK|(PALATAL|RIGHT) HOOK|TILDE)|)|VEND|VISIGOTHIC Z|
VOLAPUK (AE|OE|UE)|VY|W( WITH (ACUTE|CIRCUMFLEX|DIAERESIS|DOT (ABOVE|BELOW)|GRAVE|HOOK|RING ABOVE)|
)|X( WITH (DIAERESIS|DOT ABOVE|LONG LEFT LEG( (AND LOW RIGHT RING|WITH SERIF)|)|LOW RIGHT RING|
PALATAL HOOK)|)|Y( WITH (ACUTE|CIRCUMFLEX|DIAERESIS|DOT (ABOVE|BELOW)|GRAVE|HOOK( ABOVE|)|LOOP|
MACRON|RING ABOVE|SHORT RIGHT LEG|STROKE|TILDE)|)|YOGH|Z( WITH (ACUTE|CARON|CIRCUMFLEX|CURL|
DESCENDER|DOT (ABOVE|BELOW)|HOOK|LINE BELOW|MIDDLE TILDE|(PALATAL|RETROFLEX) HOOK|STROKE|
SWASH TAIL)|))|LIGATURE (FF|FFI|FFL|FI|FL|IJ|LONG S T|OE|ST))|SUBSCRIPT SMALL LETTER (A|E|H|I|J|K|
L|M|N|O|P|R|S|SCHWA|T|U|V|X))|LEAF FLUTTERING IN WIND|LEAFY GREEN|LEDGER|LEFT( (AND ((LOWER|
UPPER) (AND RIGHT TRIANGULAR THREE QUARTERS|ONE EIGHTH) BLOCK|RIGHT (DOUBLE TURNSTILE|TACK|
TRIANGULAR HALF BLOCK))|(ANGER|SPEECH|THOUGHT) BUBBLE|ANGLE BRACKET( WITH DOT|)|(ARC LESS-THAN|
CORNER|DOTTED SUBSTITUTION|LOW PARAPHRASE|RAISED OMISSION|SIDEWAYS U|SUBSTITUTION|TORTOISE SHELL|
TRANSPOSITION) BRACKET|ARROW WITH (CIRCLED PLUS|SMALL CIRCLE)|BARB (DOWN|UP) RIGHT BARB (DOWN|
UP) HARPOON|BLACK (LENTICULAR|TORTOISE SHELL) BRACKET|CEILING|CLOSED ENTRY|CURLY BRACKET( ((LOWER|
UPPER) HOOK|MIDDLE PIECE)|)|DOUBLE (ANGLE BRACKET|PARENTHESIS|QUOTATION MARK|WIGGLY FENCE)|
FISH TAIL|(FIVE|SEVEN) EIGHTHS BLOCK|FLOOR|HALF (BLACK (CIRCLE|STAR)|BLOCK|CIRCLE( WITH (DOT|(FOUR|
THREE|TWO) DOTS)|)|FOLDER|INVERSE MEDIUM SHADE AND RIGHT HALF BLOCK|MEDIUM SHADE|RUNNING MAN)|
HAND TELEPHONE RECEIVER|LUGGAGE|MULTIMAP|(NORMAL FACTOR SEMIDIRECT|SEMIDIRECT) PRODUCT|ONE (EIGHTH|
QUARTER) BLOCK|OUTER JOIN|PARENTHESIS( (EXTENSION|(LOWER|UPPER) HOOK)|)|
RIGHT (ARROW( (THROUGH SMALL CIRCLE|WITH ((DOUBLE VERTICAL|VERTICAL) STROKE|STROKE))|)|(BLACK|
OPEN-HEADED|SANS-SERIF|TRIANGLE-HEADED|WAVE|WHITE) ARROW|DOUBLE ARROW( WITH (STROKE|
VERTICAL STROKE)|))|S-SHAPED BAG DELIMITER|SINGLE QUOTATION MARK|SQUARE BRACKET( (EXTENSION|(LOWER|
UPPER) CORNER|WITH (DOUBLE STROKE|QUILL|STROKE|TICK IN (BOTTOM|TOP) CORNER|UNDERBAR))|)|TACK|
THIRD WHITE RIGHT POINTING INDEX|THREE (EIGHTHS|QUARTERS) BLOCK|TRIANGLE BESIDE VERTICAL BAR|
TRIANGULAR ONE QUARTER BLOCK|VERTICAL (BAR WITH QUILL|BOX LINE)|WHITE ((CORNER|CURLY|LENTICULAR|
SQUARE|TORTOISE SHELL) BRACKET|PARENTHESIS)|WIGGLY FENCE|WRITING HAND)|
-(FACING (ARMENIAN ETERNITY SIGN|FIST|SVASTI SIGN( WITH DOTS|))|HANDED INTERLACED PENTAGRAM|
POINTING ((ANGLE|CURVED ANGLE) BRACKET|DOUBLE ANGLE QUOTATION MARK|MAGNIFYING GLASS)|
(SHADED WHITE RIGHTWARDS|SIDE ARC ANTICLOCKWISE) ARROW|TO-RIGHT (EMBEDDING|ISOLATE|MARK|
OVERRIDE)))|LEFTWARDS (ARROW( (ABOVE (ALMOST EQUAL TO|REVERSE (ALMOST EQUAL TO|TILDE OPERATOR)|
SHORT RIGHTWARDS ARROW|TILDE OPERATOR)|AND UPPER AND LOWER ONE EIGHTH BLOCK|
FROM BAR( TO BLACK DIAMOND|)|OVER RIGHTWARDS ARROW|THROUGH (LESS-THAN|SUBSET|X)|
TO (BAR( OVER RIGHTWARDS ARROW TO BAR|)|BLACK DIAMOND)|WITH (DOTTED STEM|(DOUBLE VERTICAL|
VERTICAL) STROKE|(EQUILATERAL|LARGE TRIANGLE|MEDIUM TRIANGLE) ARROWHEAD|HOOK|LOOP|NOTCHED TAIL|
PLUS BELOW|SMALL (EQUILATERAL|TRIANGLE) ARROWHEAD|STROKE|TAIL( WITH (DOUBLE VERTICAL|
VERTICAL) STROKE|)|TIP (DOWNWARDS|UPWARDS)))|-TAIL|)|(BACK-TILTED SHADOWED WHITE|
BOTTOM-SHADED WHITE|COMPRESSED|DASHED|FINGER-POST|FRONT-TILTED SHADOWED WHITE|LEFT-SHADED WHITE|
OPEN-HEADED|QUADRUPLE|RIGHT-SHADED WHITE|SANS-SERIF|SQUARED|SQUIGGLE|TOP SHADED WHITE|WAVE) ARROW|
BLACK (ARROW|CIRCLED WHITE ARROW)|DOUBLE (ARROW( (FROM BAR|WITH (STROKE|VERTICAL STROKE))|-TAIL|)|
DASH ARROW)|HAND|HARPOON (OVER RIGHTWARDS HARPOON|
WITH BARB (DOWN (ABOVE RIGHTWARDS HARPOON WITH BARB DOWN|BELOW LONG DASH|FROM BAR|TO BAR)|
DOWNWARDS|UP (ABOVE (LEFTWARDS HARPOON WITH BARB DOWN|LONG DASH|RIGHTWARDS HARPOON WITH BARB UP)|
FROM BAR|TO BAR)|UPWARDS))|HEAVY (ARROW|COMPRESSED ARROW)|PAIRED ARROWS|ROCKET|TRIANGLE( ARROWHEAD|
-HEADED (ARROW( (OVER RIGHTWARDS TRIANGLE-HEADED ARROW|TO BAR|WITH ((BOLD|HEAVY|MEDIUM|NARROW|
VERY HEAVY) SHAFT|DOUBLE (HORIZONTAL|VERTICAL) STROKE|LONG TIP (DOWNWARDS|UPWARDS)))|)|
DASHED ARROW|PAIRED ARROWS))|TRIPLE (ARROW|DASH ARROW)|TWO( HEADED ARROW|-HEADED (ARROW (FROM BAR|
WITH ((DOUBLE VERTICAL|VERTICAL) STROKE|TAIL( WITH (DOUBLE VERTICAL|VERTICAL) STROKE|)|
TRIANGLE ARROWHEADS))|TRIPLE DASH ARROW))|WHITE ARROW( WITHIN TRIANGLE ARROWHEAD|))|LEG|LEMON|LEO|
LEOPARD|LEPCHA (CONSONANT SIGN (K|KANG|L|M|N|NYIN-DO|P|R|T)|DIGIT (EIGHT|FIVE|FOUR|NINE|ONE|SEVEN|
SIX|THREE|TWO|ZERO)|LETTER (A|BA|BLA|CA|CHA|DA|DDA|DZA|FA|FLA|GA|GLA|HA|HLA|JA|KA|KHA|KLA|LA|MA|
MLA|NA|NGA|NYA|PA|PHA|PLA|RA|SA|SHA|TA|THA|TSA|TSHA|TTA|TTHA|VA|WA|YA)|PUNCTUATION (CER-WA|
NYET THYOOM TA-ROL|TA-ROL|TSHOOK( CER-WA|))|SIGN (NUKTA|RAN)|SUBJOINED LETTER (RA|YA)|
VOWEL SIGN (AA|E|I|O|OO|U|UU))|LESS-THAN (ABOVE (DOUBLE-LINE EQUAL ABOVE GREATER-THAN|
(GREATER-THAN ABOVE DOUBLE-LINE|SLANTED EQUAL ABOVE GREATER-THAN ABOVE SLANTED) EQUAL|
LEFTWARDS ARROW|SIMILAR (ABOVE GREATER-THAN|OR EQUAL))|AND (NOT APPROXIMATE|
SINGLE-LINE NOT EQUAL TO)|BUT NOT (EQUAL TO|EQUIVALENT TO)|CLOSED BY CURVE( ABOVE SLANTED EQUAL|)|
EQUAL TO OR GREATER-THAN|OR (APPROXIMATE|EQUAL TO|EQUIVALENT TO|GREATER-THAN|
SLANTED EQUAL TO( WITH DOT (ABOVE( RIGHT|)|INSIDE)|))|OVER EQUAL TO|SIGN|WITH (CIRCLE INSIDE|DOT|
QUESTION MARK ABOVE))|LEVEL SLIDER|LF|LIBRA|LIGHT (CHECK MARK|(EIGHT|SIX) SPOKED ASTERISK|
FIVE (POINTED BLACK STAR|SPOKED ASTERISK)|FOUR POINTED BLACK (CUSP|STAR)|GREEK CROSS|(LEFT|
RIGHT) TORTOISE SHELL BRACKET ORNAMENT|RAIL|SALTIRE|SHADE|(THREE|TWELVE) POINTED BLACK STAR|
VERTICAL BAR|WHITE SQUARE)|LIGHTNING( MOOD( BUBBLE|)|)|LIMBU (DIGIT (EIGHT|FIVE|FOUR|NINE|ONE|
SEVEN|SIX|THREE|TWO|ZERO)|(EXCLAMATION|QUESTION) MARK|LETTER (BA|BHA|CA|CHA|DA|DHA|GA|GHA|GYAN|HA|
JA|JHA|KA|KHA|LA|MA|NA|NGA|PA|PHA|RA|SA|SHA|SSA|TA|THA|TRA|WA|YA|YAN)|SIGN (KEMPHRENG|LOO|
MUKPHRENG|SA-I)|SMALL LETTER (ANUSVARA|KA|LA|MA|NA|NGA|PA|RA|TA)|SUBJOINED LETTER (RA|WA|YA)|
VOWEL( SIGN (A|AI|AU|E|EE|I|O|OO|U)|-CARRIER LETTER))|LINE (FEED|
INTEGRATION (NOT INCLUDING THE POLE|WITH (RECTANGULAR|SEMICIRCULAR) PATH AROUND POLE)|SEPARATOR|
TABULATION( SET|))|LINEAR( (A( (SIGN( (A(301~308|310~312|314~371|501~506|508~513|515|516|520|521|
523~532|534~542|545|547~557|559|563~566|568~589|591|592|594~596|598|600~604|606|608~624|626~629|
634|637|638|640|642~646|648|649|651~664|800~807|028B|100-102|120B|131C|(309|313)(A|B|C)|
(400~418)-VAS|701 A|702 B|703 D|704 E|705 F|706 H|707 J|708 K|709( L|-(2 L2|3 L3|4 L4|6 L6))|710 W|
711 X|712 Y|713 OMEGA|714 ABB|715 BB|717 DD|726 EYYY|732 JE)|AB(001~011|013|016|017|020|024|
026~031|034|037~041|044~051|053~061|065~067|069|070|073|074|076~082|085~087|118|120|122|123|164|
171|180|188|191|(021|022)(F|M|)|023(M|)|131(A|B))))))|B( (IDEOGRAM( (B(132|142|146|150|152~154|157|
158|160|161|164~172|174|177~185|189|190|232|234|236|245|246|248|249|251~253|255~259|100 MAN|
102 WOMAN|104 DEER|105( EQUID|F MARE|M STALLION)|106(F EWE|M RAM)|107(F SHE|M HE)-GOAT|108(F SOW|
M BOAR)|109(F COW|M BULL)|120 WHEAT|121 BARLEY|122 OLIVE|123 SPICE|125 CYPERUS|130 OIL|131 WINE|
140 BRONZE|141 GOLD|145 WOOL|151 HORN|159 CLOTH|162 GARMENT|163 ARMOUR|173 MONTH|176 TREE|
191 HELMET|220 FOOTSTOOL|225 BATHTUB|230 SPEAR|231 ARROW|233 SWORD|(241|240 WHEELED) CHARIOT|
242 CHARIOT FRAME|243 WHEEL|254 DART)|VESSEL( (B(155|200~219|221|222|226~229|250|305)))))|
MONOGRAM B(127 KAPO|128 KANAKO|133 AREPA|135 MERI|156 TURO2|247 DIPTE)|SYLLABLE B(001 DA|002 RO|
003 PA|004 TE|005 TO|006 NA|007 DI|008 A|009 SE|010 U|011 PO|012 SO|013 ME|014 DO|015 MO|016 QA|
017 ZA|020 ZO|021 QI|023 MU|024 NE|025 A2|026 RU|027 RE|028 I|029 PU2|030 NI|031 SA|032 QO|033 RA3|
036 JO|037 TI|038 E|039 PI|040 WI|041 SI|042 WO|043 A3|044 KE|045 DE|046 JE|048 NWA|050 PU|051 DU|
052 NO|053 RI|054 WA|055 NU|057 JA|058 SU|059 TA|060 RA|061 O|062 PTE|065 JU|066 TA2|067 KI|
068 RO2|069 TU|070 KO|071 DWE|072 PE|073 MI|074 ZE|075 WE|076 RA2|077 KA|078 QE|080 MA|081 KU|
085 AU|087 TWE|090 DWO|091 TWO)|SYMBOL B(018|019|022|034|047|049|056|063|064|079|082|083|086|
089)))))|LINKED PAPERCLIPS|LIPS|LIPSTICK|LISU (LETTER (A|AE|BA|CA|CHA|DA|DZA|E|EU|FA|GA|GHA|HA|HHA|
I|JA|KA|KHA|LA|MA|NA|NGA|O|OE|PA|PHA|SA|SHA|TA|THA|TONE (MYA (BO|CYA|JEU|NA|TI)|NA PO)|TSA|TSHA|U|
UE|UH|WA|XA|YA|YHA|ZA|ZHA)|PUNCTUATION (COMMA|FULL STOP))|LIZARD|LLAMA|LOBSTER|LOCK( WITH INK PEN|
)|LOCKING-SHIFT (ONE|ZERO)|LOGICAL (AND( WITH (DOT ABOVE|DOUBLE (OVERBAR|UNDERBAR)|HORIZONTAL DASH|
MIDDLE STEM|UNDERBAR)|)|OR( (OVERLAPPING LOGICAL AND|WITH (DOT ABOVE|DOUBLE (OVERBAR|UNDERBAR)|
HORIZONTAL DASH|MIDDLE STEM))|))|LOLLIPOP|LONG (DASH FROM LEFT MEMBER OF DOUBLE VERTICAL|DIVISION|
DRUM|LEFT (RIGHT (ARROW|DOUBLE ARROW)|TACK)|(LEFTWARDS|RIGHTWARDS) ((ARROW|DOUBLE ARROW)( FROM BAR|
)|SQUIGGLE ARROW)|RIGHT TACK)|LOTION BOTTLE|LOTUS|LOVE (HOTEL|LETTER)|LOW (ASTERISK|BATTERY|
BRIGHTNESS SYMBOL|DOUBLE PRIME QUOTATION MARK|KAVYKA( WITH DOT|)|LINE)|LOWER (BLADE SCISSORS|(FIVE|
SEVEN) EIGHTHS BLOCK|HALF (BLOCK|CIRCLE|INVERSE WHITE CIRCLE|MEDIUM SHADE)|LEFT (BALLPOINT PEN|
BLOCK DIAGONAL (LOWER MIDDLE LEFT TO LOWER (CENTRE|RIGHT)|UPPER (CENTRE TO (LOWER (MIDDLE RIGHT|
RIGHT)|UPPER MIDDLE RIGHT)|LEFT TO (LOWER (CENTRE|MIDDLE RIGHT)|UPPER MIDDLE RIGHT)|
MIDDLE LEFT TO LOWER (CENTRE|MIDDLE RIGHT|RIGHT)))|CRAYON|FOUNTAIN PEN|PAINTBRUSH|PENCIL|
QUADRANT CIRCULAR ARC|SEMICIRCULAR ANTICLOCKWISE ARROW|TRIANGLE|TRIANGULAR MEDIUM SHADE)|
ONE (EIGHTH|QUARTER) BLOCK|RIGHT (BLOCK DIAGONAL (LOWER (CENTRE TO (LOWER MIDDLE RIGHT|
UPPER (MIDDLE RIGHT|RIGHT))|LEFT TO (LOWER MIDDLE RIGHT|UPPER (CENTRE|MIDDLE RIGHT))|
MIDDLE LEFT TO UPPER (CENTRE|MIDDLE RIGHT|RIGHT))|UPPER MIDDLE LEFT TO UPPER (CENTRE|RIGHT))|
CORNER WITH DOT|DROP-SHADOWED WHITE SQUARE|PENCIL|QUADRANT CIRCULAR ARC|
SEMICIRCULAR CLOCKWISE ARROW|SHADOWED WHITE (CIRCLE|SQUARE)|TRIANGLE|TRIANGULAR MEDIUM SHADE)|
THREE (EIGHTHS|QUARTERS) BLOCK|TRIANGULAR ONE QUARTER BLOCK)|LOZENGE( DIVIDED BY HORIZONTAL RULE|)|
LRE|LRI|LRM|LRO|LUGGAGE|LUNGS|LYCIAN LETTER (A|AN|B|BH|D|E|EN|G|H|I|J|K|KK|L|M|MM|N|NN|P|Q|R|S|T|
TH|TT|U|W|X|Z)|LYDIAN (LETTER (A|AN|B|C|D|E|EN|F|G|I|K|L|LY|M|N|NN|O|Q|R|S|SS|T|TT|U|V|Y)|
TRIANGULAR MARK)|MACRON|MAGE|MAGIC WAND|MAGNET|MAHAJANI (ABBREVIATION SIGN|LETTER (A|BA|BHA|CA|CHA|
DA|DDA|DDHA|DHA|E|GA|GHA|HA|I|JA|JHA|KA|KHA|LA|MA|NA|NNA|NYA|O|PA|PHA|RA|RRA|SA|TA|THA|TTA|TTHA|U|
VA)|LIGATURE SHRI|SECTION MARK|SIGN NUKTA)|MAHJONG TILE (AUTUMN|BACK|BAMBOO|CHRYSANTHEMUM|(EAST|
NORTH|SOUTH|WEST) WIND|(EIGHT|FIVE|FOUR|NINE|ONE|SEVEN|SIX|THREE|TWO) OF (BAMBOOS|CHARACTERS|
CIRCLES)|(GREEN|RED|WHITE) DRAGON|JOKER|ORCHID|PLUM|SPRING|SUMMER|WINTER)|MAKASAR (ANGKA|
END OF SECTION|LETTER (A|BA|CA|DA|GA|JA|KA|LA|MA|NA|NGA|NYA|PA|RA|SA|TA|VA|YA)|PASSIMBANG|
VOWEL SIGN (E|I|O|U))|MALAYALAM ((AU LENGTH|DATE) MARK|DIGIT (EIGHT|FIVE|FOUR|NINE|ONE|SEVEN|SIX|
THREE|TWO|ZERO)|FRACTION (ONE (EIGHTH|FIFTH|FORTIETH|HALF|ONE-HUNDRED-AND-SIXTIETH|QUARTER|
SIXTEENTH|TENTH|TWENTIETH)|THREE (EIGHTIETHS|QUARTERS|SIXTEENTHS|TWENTIETHS))|LETTER (A|AA|AI|
ARCHAIC II|AU|BA|BHA|CA|CHA|CHILLU (K|L|LL|LLL|M|N|NN|RR|Y)|DA|DDA|DDHA|DHA|DOT REPH|E|EE|GA|GHA|
HA|I|II|JA|JHA|KA|KHA|LA|LLA|LLLA|MA|NA|NGA|NNA|NNNA|NYA|O|OO|PA|PHA|RA|RRA|SA|SHA|SSA|TA|THA|TTA|
TTHA|TTTA|U|UU|VA|VEDIC ANUSVARA|VOCALIC (L|LL|R|RR)|YA)|NUMBER (ONE (HUNDRED|THOUSAND)|TEN)|
SIGN (ANUSVARA|AVAGRAHA|CANDRABINDU|(CIRCULAR|VERTICAL BAR) VIRAMA|COMBINING ANUSVARA ABOVE|PARA|
VIRAMA|VISARGA)|VOWEL SIGN (AA|AI|AU|E|EE|I|II|O|OO|U|UU|VOCALIC (L|LL|R|RR)))|
MALE (AND FEMALE SIGN|SIGN|WITH STROKE (AND MALE AND FEMALE SIGN|SIGN))|MAMMOTH|
MAN( (AND WOMAN HOLDING HANDS|DANCING|IN (BUSINESS SUIT LEVITATING|TUXEDO)|WITH (GUA PI MAO|
TURBAN))|)|MANDAIC ((AFFRICATION|GEMINATION|VOCALIZATION) MARK|LETTER (AB|AD|AG|AH|AIN|AK|AKSA|AL|
AM|AN|AP|AQ|AR|AS|ASH|ASZ|AT|ATT|AZ|DUSHENNA|HALQA|IN|IT|KAD|USHENNA)|PUNCTUATION)|MANGO|
MANICHAEAN (ABBREVIATION MARK (ABOVE|BELOW)|LETTER (AAYIN|ALEPH|AYIN|BETH|BHETH|DALETH|DHAMEDH|FE|
GHIMEL|GIMEL|HE|HETH|JAYIN|JHAYIN|KAPH|KHAPH|LAMEDH|MEM|NUN|PE|QHOPH|QOPH|RESH|SADHE|SAMEKH|SHIN|
SSHIN|TAW|TETH|THAMEDH|WAW|XAPH|XOPH|YODH|ZAYIN|ZHAYIN)|NUMBER (FIVE|ONE( HUNDRED|)|TEN|TWENTY)|
PUNCTUATION (DOT( WITHIN DOT|)|DOUBLE DOT WITHIN DOT|FLEURON|LINE FILLER|STAR|TWO DOTS)|SIGN UD)|
(MANUAL|MOTORIZED) WHEELCHAIR|MAP SYMBOL FOR LIGHTHOUSE|MARCHEN (HEAD MARK|LETTER (-A|A|BA|CA|CHA|
DA|DZA|GA|HA|JA|KA|KHA|LA|MA|NA|NGA|NYA|PA|PHA|RA|SA|SHA|TA|THA|TSA|TSHA|WA|YA|ZA|ZHA)|MARK SHAD|
SIGN (ANUSVARA|CANDRABINDU)|SUBJOINED LETTER (A|BA|CA|CHA|DA|DZA|GA|HA|JA|KA|KHA|LA|MA|NA|NGA|NYA|
PA|PHA|RA|SA|SHA|TA|THA|TSA|TSHA|WA|YA|ZA|ZHA)|VOWEL SIGN (AA|E|I|O|U))|MARTIAL ARTS UNIFORM|
MASARAM GONDI (DIGIT (EIGHT|FIVE|FOUR|NINE|ONE|SEVEN|SIX|THREE|TWO|ZERO)|LETTER (A|AA|AI|AU|BA|BHA|
CA|CHA|DA|DDA|DDHA|DHA|E|GA|GHA|HA|I|II|JA|JHA|JNYA|KA|KHA|KSSA|LA|LLA|MA|NA|NGA|NNA|NYA|O|PA|PHA|
RA|SA|SHA|SSA|TA|THA|TRA|TTA|TTHA|U|UU|VA|YA)|RA-KARA|REPHA|SIGN (ANUSVARA|CANDRA|HALANTA|NUKTA|
VISARGA)|VIRAMA|VOWEL SIGN (AA|AI|AU|E|I|II|O|U|UU|VOCALIC R))|MATE DRINK|
MATHEMATICAL (BOLD (CAPITAL (A|ALPHA|B|BETA|C|CHI|D|DELTA|DIGAMMA|E|EPSILON|ETA|F|G|GAMMA|H|I|IOTA|
J|K|KAPPA|L|LAMDA|M|MU|N|NU|O|OMEGA|OMICRON|P|PHI|PI|PSI|Q|R|RHO|S|SIGMA|T|TAU|THETA( SYMBOL|)|U|
UPSILON|V|W|X|XI|Y|Z|ZETA)|DIGIT (EIGHT|FIVE|FOUR|NINE|ONE|SEVEN|SIX|THREE|TWO|ZERO)|(EPSILON|
KAPPA|PHI|PI|RHO|THETA) SYMBOL|(FRAKTUR|SCRIPT) (CAPITAL|SMALL) (A|B|C|D|E|F|G|H|I|J|K|L|M|N|O|P|Q|
R|S|T|U|V|W|X|Y|Z)|ITALIC (CAPITAL (A|ALPHA|B|BETA|C|CHI|D|DELTA|E|EPSILON|ETA|F|G|GAMMA|H|I|IOTA|
J|K|KAPPA|L|LAMDA|M|MU|N|NU|O|OMEGA|OMICRON|P|PHI|PI|PSI|Q|R|RHO|S|SIGMA|T|TAU|THETA( SYMBOL|)|U|
UPSILON|V|W|X|XI|Y|Z|ZETA)|(EPSILON|KAPPA|PHI|PI|RHO|THETA) SYMBOL|NABLA|PARTIAL DIFFERENTIAL|
SMALL (A|ALPHA|B|BETA|C|CHI|D|DELTA|E|EPSILON|ETA|F|FINAL SIGMA|G|GAMMA|H|I|IOTA|J|K|KAPPA|L|LAMDA|
M|MU|N|NU|O|OMEGA|OMICRON|P|PHI|PI|PSI|Q|R|RHO|S|SIGMA|T|TAU|THETA|U|UPSILON|V|W|X|XI|Y|Z|ZETA))|
NABLA|PARTIAL DIFFERENTIAL|SMALL (A|ALPHA|B|BETA|C|CHI|D|DELTA|DIGAMMA|E|EPSILON|ETA|F|FINAL SIGMA|
G|GAMMA|H|I|IOTA|J|K|KAPPA|L|LAMDA|M|MU|N|NU|O|OMEGA|OMICRON|P|PHI|PI|PSI|Q|R|RHO|S|SIGMA|T|TAU|
THETA|U|UPSILON|V|W|X|XI|Y|Z|ZETA))|DOUBLE-STRUCK (CAPITAL (A|B|D|E|F|G|I|J|K|L|M|O|S|T|U|V|W|X|Y)|
DIGIT (EIGHT|FIVE|FOUR|NINE|ONE|SEVEN|SIX|THREE|TWO|ZERO)|SMALL (A|B|C|D|E|F|G|H|I|J|K|L|M|N|O|P|Q|
R|S|T|U|V|W|X|Y|Z))|(FALLING|RISING) DIAGONAL|FRAKTUR (CAPITAL (A|B|D|E|F|G|J|K|L|M|N|O|P|Q|S|T|U|
V|W|X|Y)|SMALL (A|B|C|D|E|F|G|H|I|J|K|L|M|N|O|P|Q|R|S|T|U|V|W|X|Y|Z))|ITALIC (CAPITAL (A|ALPHA|B|
BETA|C|CHI|D|DELTA|E|EPSILON|ETA|F|G|GAMMA|H|I|IOTA|J|K|KAPPA|L|LAMDA|M|MU|N|NU|O|OMEGA|OMICRON|P|
PHI|PI|PSI|Q|R|RHO|S|SIGMA|T|TAU|THETA( SYMBOL|)|U|UPSILON|V|W|X|XI|Y|Z|ZETA)|(EPSILON|KAPPA|PHI|
PI|RHO|THETA) SYMBOL|NABLA|PARTIAL DIFFERENTIAL|SMALL (A|ALPHA|B|BETA|C|CHI|D|DELTA|DOTLESS (I|J)|
E|EPSILON|ETA|F|FINAL SIGMA|G|GAMMA|I|IOTA|J|K|KAPPA|L|LAMDA|M|MU|N|NU|O|OMEGA|OMICRON|P|PHI|PI|
PSI|Q|R|RHO|S|SIGMA|T|TAU|THETA|U|UPSILON|V|W|X|XI|Y|Z|ZETA))|(LEFT|RIGHT) ((ANGLE|
DOUBLE ANGLE) BRACKET|FLATTENED PARENTHESIS|WHITE (SQUARE|TORTOISE SHELL) BRACKET)|
MONOSPACE ((CAPITAL|SMALL) (A|B|C|D|E|F|G|H|I|J|K|L|M|N|O|P|Q|R|S|T|U|V|W|X|Y|Z)|DIGIT (EIGHT|FIVE|
FOUR|NINE|ONE|SEVEN|SIX|THREE|TWO|ZERO))|SANS-SERIF (BOLD (CAPITAL (A|ALPHA|B|BETA|C|CHI|D|DELTA|E|
EPSILON|ETA|F|G|GAMMA|H|I|IOTA|J|K|KAPPA|L|LAMDA|M|MU|N|NU|O|OMEGA|OMICRON|P|PHI|PI|PSI|Q|R|RHO|S|
SIGMA|T|TAU|THETA( SYMBOL|)|U|UPSILON|V|W|X|XI|Y|Z|ZETA)|DIGIT (EIGHT|FIVE|FOUR|NINE|ONE|SEVEN|SIX|
THREE|TWO|ZERO)|(EPSILON|KAPPA|PHI|PI|RHO|THETA) SYMBOL|ITALIC (CAPITAL (A|ALPHA|B|BETA|C|CHI|D|
DELTA|E|EPSILON|ETA|F|G|GAMMA|H|I|IOTA|J|K|KAPPA|L|LAMDA|M|MU|N|NU|O|OMEGA|OMICRON|P|PHI|PI|PSI|Q|
R|RHO|S|SIGMA|T|TAU|THETA( SYMBOL|)|U|UPSILON|V|W|X|XI|Y|Z|ZETA)|(EPSILON|KAPPA|PHI|PI|RHO|
THETA) SYMBOL|NABLA|PARTIAL DIFFERENTIAL|SMALL (A|ALPHA|B|BETA|C|CHI|D|DELTA|E|EPSILON|ETA|F|
FINAL SIGMA|G|GAMMA|H|I|IOTA|J|K|KAPPA|L|LAMDA|M|MU|N|NU|O|OMEGA|OMICRON|P|PHI|PI|PSI|Q|R|RHO|S|
SIGMA|T|TAU|THETA|U|UPSILON|V|W|X|XI|Y|Z|ZETA))|NABLA|PARTIAL DIFFERENTIAL|SMALL (A|ALPHA|B|BETA|C|
CHI|D|DELTA|E|EPSILON|ETA|F|FINAL SIGMA|G|GAMMA|H|I|IOTA|J|K|KAPPA|L|LAMDA|M|MU|N|NU|O|OMEGA|
OMICRON|P|PHI|PI|PSI|Q|R|RHO|S|SIGMA|T|TAU|THETA|U|UPSILON|V|W|X|XI|Y|Z|ZETA))|(CAPITAL|SMALL) (A|
B|C|D|E|F|G|H|I|J|K|L|M|N|O|P|Q|R|S|T|U|V|W|X|Y|Z)|DIGIT (EIGHT|FIVE|FOUR|NINE|ONE|SEVEN|SIX|THREE|
TWO|ZERO)|ITALIC (CAPITAL|SMALL) (A|B|C|D|E|F|G|H|I|J|K|L|M|N|O|P|Q|R|S|T|U|V|W|X|Y|Z))|
SCRIPT (CAPITAL (A|C|D|G|J|K|N|O|P|Q|S|T|U|V|W|X|Y|Z)|SMALL (A|B|C|D|F|H|I|J|K|L|M|N|P|Q|R|S|T|U|V|
W|X|Y|Z)))|MAXIMIZE|MAYAN NUMERAL (EIGHT|EIGHTEEN|ELEVEN|FIFTEEN|FIVE|FOUR|FOURTEEN|NINE|NINETEEN|
ONE|SEVEN|SEVENTEEN|SIX|SIXTEEN|TEN|THIRTEEN|THREE|TWELVE|TWO|ZERO)|MEASURED (ANGLE( (OPENING LEFT|
WITH OPEN ARM ENDING IN ARROW POINTING ((DOWN|UP) AND (LEFT|RIGHT)|(LEFT|RIGHT) AND (DOWN|UP)))|)|
BY|RIGHT ANGLE WITH DOT)|MEAT ON BONE|MECHANICAL (ARM|LEG)|MEDEFAIDRIN ((CAPITAL|SMALL) LETTER (A|
AI|ATIU|B|C|D|E|F|G|H|HP|I|J|K|KP|L|M|N|NG|NY|O|OE|P|Q|R|S|T|U|V|W|X|Y|YU|Z)|COMMA|DIGIT (EIGHT|
FIVE|FOUR|NINE|(ONE|THREE|TWO)( ALTERNATE FORM|)|SEVEN|SIX|ZERO)|EXCLAMATION OH|FULL STOP|
NUMBER (EIGHTEEN|ELEVEN|FIFTEEN|FOURTEEN|NINETEEN|SEVENTEEN|SIXTEEN|TEN|THIRTEEN|TWELVE)|
SYMBOL AIVA)|MEDIEVAL (COMMA|(EXCLAMATION|QUESTION) MARK)|MEDIUM ((BLACK|BOLD WHITE|
SMALL WHITE) CIRCLE|(EIGHT|SIX) (POINTED BLACK STAR|SPOKED ASTERISK)|FIVE SPOKED ASTERISK|
FLATTENED (LEFT|RIGHT) PARENTHESIS ORNAMENT|(FOUR|THREE) POINTED (BLACK|PINWHEEL) STAR|GREEK CROSS|
(LEFT|RIGHT)( (CURLY BRACKET|PARENTHESIS) ORNAMENT|-POINTING ANGLE BRACKET ORNAMENT)|
MATHEMATICAL SPACE|SALTIRE|SHADE|VERTICAL BAR|WHITE (CIRCLE|SQUARE))|MEETEI MAYEK (AHANG KHUDAM|
ANJI|(APUN|LUM) IYEK|CHEIKHAN|CHEIKHEI|DIGIT (EIGHT|FIVE|FOUR|NINE|ONE|SEVEN|SIX|THREE|TWO|ZERO)|
LETTER (ATIYA|BA|BHAM|CHA|CHIL|DDA|DDHA|DHOU|DIL|E|GHOU|GOK|HUK|(I|KOK|LAI|MIT|NA|NGOU|PA|
TIL)( LONSUM|)|JHAM|JIL|KHOU|NNA|NYA|O|PHAM|RAI|SAM|SHA|SSA|THOU|TTA|TTHA|UN|WAI|YANG)|(SYLLABLE|
WORD) REPETITION MARK|VIRAMA|VOWEL SIGN (AAI|AAU|ANAP|AU|CHEINAP|II|INAP|NUNG|ONAP|SOUNAP|UNAP|UU|
VISARGA|YENAP))|MELON|MEMO|MENDE KIKAKUI (COMBINING NUMBER ((HUNDRED|TEN) THOUSANDS|HUNDREDS|
MILLIONS|TEENS|TENS|THOUSANDS)|DIGIT (EIGHT|FIVE|FOUR|NINE|ONE|SEVEN|SIX|THREE|TWO)|
SYLLABLE M(001 KI|002 KA|003 KU|004 WI|005 WA|006 WU|007 MIN|008 MAN|009 MUN|010 BI|011 BA|012 BU|
013 I|014 A|015 U|016 DI|017 DA|018 DU|019 SI|020 SA|021 SU|022 TI|023 TA|024 TU|025 LI|026 LA|
027 LU|028 JI|029 JA|030 JU|031 YI|032 YA|033 YU|034 FI|035 FA|036 FU|037 NIN|038 NAN|039 NUN|
040 HEE|041 HA|042 HOO|043 NGGA|044 KPEE|045 WO|046 HUAN|(047|188) MBEE|048 KO|049 WVA|050 PU|
051 PE|052 HEN|053 HIN|054 LOO|055 TE|056 GBA|057 NGON|058 NYAN|059 MEN|060 NYON|061 WVI|062 MBA|
063 JO|064 NDO|065 KEE|066 PO|067 NDOO|068 PI|069 TO|070 GBO|071 GBOO|072 MBE|073 LE|074 KPU|
075 FE|076 KOO|077 VO|078 FEE|079 SO|080 YE|081 PEE|082 NGGU|083 HEEI|084 LEE|085 VE|(146|
086 LONG) NGGE|087 HUN|088 FO|089 DEE|090 NGGI|091 TEE|092 KPA|093 GBEE|094 MON|095 KE|096 HE|
097 BE|098 NYEN|099 PA|100 E|101 FAN|102 POO|103 BOO|104 TOO|(172|105 LONG) MBOO|(156|
106 LONG) NGGOO|107 GBE|108 KPE|109 YEE|110 LONG LE|111 GA|112 KPOO|113 JE|114 WOO|115 NGGEE|
116 SE|117 NEN|118 WE|119 NDE|(120|183 LONG) NGGO|121 YO|122 MBU|123 NDI|124 GBI|125 NDU|126 WEE|
127 NGGUA|128 HOOU|129 NDA|130 HAN|131 IN|132 KPI|133 FOO|134 NJOO|135 IN|136 SOO|137 EI|138 BO|
139 WVE|140 HO|141 YOO|142 LONG MBO|143 WEI|144 VOO|145 MBI|147 O|148 GBU|149 NJEE|150 BEE|151 VU|
152 NJA|153 LO|154 MUAN|155 GI|157 JEE|158 KPO|159 NGGAA|160 JOO|161 LONG MBE|162 SEE|163 EE|
164 NYIN|165 OO|166 GUEI|167 GUAN|168 GU|169 NON|170 NYUN|171 RA|173 VEE|174 MBO|175 LONG JO|
176 HI|177 NGUAN|178 EN|179 KUA|180 DOO|181 DO|182 VI|184 NGEN|185 VA|186 HU|187 MBUU|189 MUEN|
190 GEE|191 NDEE|192 NJU|193 HON|194 WUI|195 AN|196 SIA|197 FUA))|MENORAH WITH NINE BRANCHES|
MERCURY|MEROITIC (CURSIVE (FRACTION ((EIGHT|ELEVEN|FIVE|FOUR|NINE|SEVEN|SIX|TEN|THREE|
TWO) TWELFTHS|ONE (HALF|TWELFTH))|LETTER (A|ARCHAIC SA|BA|DA|E|HHA|I|KA|KHA|LA|MA|NA|NE|O|PA|QA|RA|
SA|SE|TA|TE|TO|WA|YA)|LOGOGRAM (IMN|RMT)|NUMBER ((EIGHT|FIVE|FOUR|NINE|ONE|SEVEN|SIX|THREE|
TWO)( (HUNDRED( THOUSAND|)|THOUSAND)|)|(EIGHTY|NINETY) THOUSAND|(FIFTY|FORTY|SEVENTY|SIXTY|TEN|
THIRTY|TWENTY)( THOUSAND|)))|HIEROGLYPHIC (LETTER (A|(BA|NA|NE|RA|SA|TA|TE)(-2|)|DA|E|HHA|I|KA|KHA|
LA|MA|O|PA|QA|SE|TO|WA|YA)|SYMBOL VIDJ(-2|)))|MERPERSON|MESSAGE WAITING|METRICAL (BREVE|
LONG OVER (SHORT|TWO SHORTS)|PENTASEME|SHORT OVER LONG|TETRASEME|TRISEME|TWO SHORTS (JOINED|
OVER LONG))|METRO|MIAO( (LETTER( (AH|ARCHAIC (MA|NA|NGA|ZZA)|BA|BRI|DA|DDA|DLHA|DLHYA|DZA|DZHA|
DZYI|DZZA|FA|GA|GHA|GHHA|HA|HHA|KA|LA|LHA|LHYA|LYA|MA|MHA|NA|NASALIZATION|NGA|NGHA|NHA|NNA|NNHA|
NYA|NYHA|PA|PLA|QA|QGA|REFORMED( (TONE(-(1|2|4~6|8))|TSHA))|RTE|SA|SHA|SSA|SYI|TA|TE|TLHA|TLHYA|
TONE(-(2~8))|TSA|TSE|TSHA|TSSA|TTA|VA|VFA|WA|XA|YI (DZHA|KA|NNA|PA|TA|TSA|TSHA|TTA)|ZA|ZHA|ZSA|
ZSHA|ZZA|ZZSA|ZZSYA|ZZYA))|SIGN (ASPIRATION|CONSONANT MODIFIER BAR|REFORMED (ASPIRATION|VOICING))|
TONE (ABOVE|BELOW|RIGHT|TOP RIGHT)|VOWEL SIGN (A|AA|AE|AEE|AHH|AI|AN|ANG|AU|E|EA|EI|EN|ENG|ER|ERR|
I|IA|IAN|IANG|IE|IG|II|ING|IO|IONG|IU|N|NG|O|OER|OEY|OG|OO|OU|ROUNDED (ER|ERR)|U|UA|UAN|UANG|UEI|
UI|UNG|UOG|UU|VW|W|WO|Y|YI|YUI)))|MICR (DASH|ON US) SYMBOL|MICROBE|MICROPHONE|MICROSCOPE|
MIDDLE (DOT|THIRD WHITE RIGHT POINTING INDEX)|MIDLINE HORIZONTAL ELLIPSIS|MILITARY (HELMET|MEDAL)|
MILKY WAY|MINIBUS|MINIDISC|MINIMIZE|MINUS( (SIGN( (IN TRIANGLE|WITH (COMMA ABOVE|DOT BELOW|
(FALLING|RISING) DOTS))|)|TILDE)|-OR-PLUS SIGN)|MINY|MIRROR( BALL|)|MMSP|MOBILE PHONE( (OFF|
WITH RIGHTWARDS ARROW AT LEFT)|)|MODELS|MODERN PENTATHLON|MODI (ABBREVIATION SIGN|DANDA|
DIGIT (EIGHT|FIVE|FOUR|NINE|ONE|SEVEN|SIX|THREE|TWO|ZERO)|DOUBLE DANDA|LETTER (A|AA|AI|AU|BA|BHA|
CA|CHA|DA|DDA|DDHA|DHA|E|GA|GHA|HA|I|II|JA|JHA|KA|KHA|LA|LLA|MA|NA|NGA|NNA|NYA|O|PA|PHA|RA|SA|SHA|
SSA|TA|THA|TTA|TTHA|U|UU|VA|VOCALIC (L|LL|R|RR)|YA)|SIGN (ANUSVARA|ARDHACANDRA|HUVA|VIRAMA|
VISARGA)|VOWEL SIGN (AA|AI|AU|E|I|II|O|U|UU|VOCALIC (L|LL|R|RR)))|
MODIFIER (BREVE WITH INVERTED BREVE|LETTER ((ACUTE|CIRCUMFLEX|CROSS|GRAVE) ACCENT|(ALVEOLAR|
BILABIAL|DENTAL|LATERAL) CLICK|APOSTROPHE|(BEGIN|END|STRESS AND) (HIGH|LOW) TONE|CAPITAL (A|AE|B|
BARRED B|C|D|E|F|G|H( WITH STROKE|)|I|J|K|L|M|N|O|OU|P|Q|R|REVERSED (E|N)|T|U|V|W)|CENTRED (LEFT|
RIGHT) HALF RING|CHINESE TONE (YANG|YIN) (PING|QU|RU|SHANG)|COLON|CYRILLIC (EN|(HARD|SOFT) SIGN)|
DOT (HORIZONTAL BAR|SLASH|VERTICAL BAR)|DOUBLE (APOSTROPHE|PRIME)|(DOWN|UP) (ARROWHEAD|TACK)|
EXTRA-(HIGH|LOW) (DOTTED (LEFT-STEM TONE BAR|TONE BAR)|LEFT-STEM TONE BAR|TONE BAR)|GEORGIAN NAR|
GLOTTAL STOP( WITH STROKE|)|(HALF TRIANGULAR|TRIANGULAR) COLON|(HIGH|
MID) (DOTTED (LEFT-STEM TONE BAR|TONE BAR)|LEFT-STEM TONE BAR|TONE BAR)|(LEFT|RIGHT) (ARROWHEAD|
HALF RING|TACK)|LOW ((ACUTE|CIRCUMFLEX|GRAVE) ACCENT|DOTTED (LEFT-STEM TONE BAR|TONE BAR)|(DOWN|
RIGHT|UP) ARROWHEAD|INVERTED EXCLAMATION MARK|LEFT( (ARROW|ARROWHEAD)|-STEM TONE BAR)|MACRON|RING|
TILDE|TONE BAR|VERTICAL LINE)|LOWER RIGHT CORNER ANGLE|MACRON|MIDDLE (DOUBLE (ACUTE|GRAVE) ACCENT|
GRAVE ACCENT)|(MINUS|PLUS|SHORT EQUALS) SIGN|OPEN SHELF|PRIME|RAISED (COLON|(DOWN|UP) ARROW|
(EXCLAMATION|INVERTED EXCLAMATION) MARK)|(RETROFLEX CLICK WITH RETROFLEX|RHOTIC) HOOK|
REVERSED (COMMA|GLOTTAL STOP( WITH STROKE|))|SHELF|SMALL (A|AE|AIN|ALPHA|(B|G|HENG|M)( WITH HOOK|)|
BARRED O|BETA|(BOTTOM|TOP) HALF O|C( WITH CURL|)|CAPITAL (AA|B|G( WITH HOOK|)|H|I( WITH STROKE|)|
INVERTED R|L( WITH BELT|)|N|OE|R|U|Y)|CHI|CLOSED (OMEGA|REVERSED OPEN E)|D( WITH (HOOK( AND TAIL|)|
TAIL)|)|DELTA|(DEZH|FENG|LS|LZ|TESH) DIGRAPH|DOTLESS J WITH STROKE( AND HOOK|)|(DZ DIGRAPH|
Z)( WITH (CURL|RETROFLEX HOOK)|)|E|ENG|ESH|ETH|EZH|F|GAMMA|GREEK (GAMMA|PHI)|H( WITH (HOOK|STROKE)|
)|I WITH STROKE|IOTA|J( WITH CROSSED-TAIL|)|K|L( WITH (BELT|INVERTED LAZY S|MIDDLE TILDE|
PALATAL HOOK|RETROFLEX HOOK( AND BELT|))|)|(LEZH|TS DIGRAPH)( WITH RETROFLEX HOOK|)|LIGATURE OE|
N WITH (LEFT|RETROFLEX) HOOK|O( WITH STROKE|)|OPEN (E|O)|P|PHI|Q|R( WITH (FISHHOOK|TAIL)|)|
RAMS HORN|REVERSED (E|GLOTTAL STOP|OPEN E)|S( WITH (CURL|HOOK)|)|SCHWA|SCRIPT G|SIDEWAYS U|
T( WITH (PALATAL|RETROFLEX) HOOK|)|TC DIGRAPH WITH CURL|THETA|TURNED (A|AE|ALPHA|H|I|
M( WITH LONG LEG|)|OPEN E|R( WITH (HOOK|LONG LEG( AND RETROFLEX HOOK|))|)|V|W|Y( WITH BELT|))|
U( (BAR|WITH LEFT HOOK)|)|UPSILON|V( WITH (HOOK|RIGHT HOOK)|)|W|X|Y)|SUPERSCRIPT (HALF TRIANGULAR|
TRIANGULAR) COLON|TURNED COMMA|UNASPIRATED|US|VERTICAL LINE|VOICING|(YANG|
YIN) DEPARTING TONE MARK))|MODULO TWO SUM|MONEY( (BAG|WITH WINGS)|-MOUTH FACE)|MONGOLIAN ((BIRGA|
ROTATED BIRGA|SWIRL BIRGA)( WITH (DOUBLE ORNAMENT|ORNAMENT)|)|COLON|COMMA|DIGIT (EIGHT|FIVE|FOUR|
NINE|ONE|SEVEN|SIX|THREE|TWO|ZERO)|(DOUBLE|TRIPLE) BIRGA WITH ORNAMENT|ELLIPSIS|FOUR DOTS|
FREE VARIATION SELECTOR (FOUR|ONE|THREE|TWO)|FULL STOP|INVERTED BIRGA( WITH DOUBLE ORNAMENT|)|
LETTER (A|ALI GALI (A|AH|ANUSVARA ONE|BALUDA|CA|DA|DAGALGA|DAMARU|DDA|HALF (U|YA)|I|
INVERTED UBADAMA|KA|NGA|NNA|PA|PHA|SSA|TA|THREE BALUDA|TTA|TTHA|UBADAMA|VISARGA ONE|ZA|ZHA)|ANG|BA|
CHA( WITH TWO DOTS|)|CHI|DA|E|EE|FA|GA|HAA|I|JA|KA|KHA|LA|LHA|MA|MANCHU (ALI GALI (BHA|CA|CYA|DDHA|
DHA|GHA|JHA|LHA|NGA|SSA|TA|TTA|ZA|ZHA)|FA|I|KA|RA|ZHA)|NA|O|OE|PA|QA|RA|SA|SHA|SIBE (ANG|CHA|DA|E|
FA|GA|GAA|HA|HAA|I|IY|JA|KA|PA|RAA|SHA|TA|TSA|U|UE|ZA|ZHA)|TA|TODO (ALI GALI (TA|ZHA)|ANG|BA|CHA|
DA|DZA|E|GA|GAA|HAA|I|JA|JIA|KA|LONG VOWEL SIGN|MA|NIA|O|OE|PA|QA|TA|TSA|U|UE|WA|YA)|TSA|U|UE|WA|
YA|ZA|ZHI|ZRA)|MANCHU (COMMA|FULL STOP)|NIRUGU|SIBE SYLLABLE BOUNDARY MARKER|TODO SOFT HYPHEN|
TURNED SWIRL BIRGA WITH DOUBLE ORNAMENT|VOWEL SEPARATOR)|MONOGRAM FOR (EARTH|YANG|YIN)|MONORAIL|
MOOD BUBBLE|MOON (CAKE|VIEWING CEREMONY)|MOSQUE|MOSQUITO|MOTOR (BOAT|SCOOTER)|MOTORWAY|MOUNT FUJI|
MOUNTAIN( (BICYCLIST|CABLEWAY|RAILWAY)|)|MOUSE( (FACE|TRAP)|)|MOUTH|MOVIE CAMERA|MOYAI|MRO (DANDA|
DIGIT (EIGHT|FIVE|FOUR|NINE|ONE|SEVEN|SIX|THREE|TWO|ZERO)|DOUBLE DANDA|LETTER (A|BA|CHU|DA|DAI|E|
EA|HAI|HAO|KEAAE|KHAI|KO|LA|LAN|MAEM|MIM|NGI|NIN|O|OL|OO|PA|PHI|RI|RO|SHI|TA|TEK|THEA|WA|YO))|
MUCH (GREATER|LESS)-THAN|MULTANI (LETTER (A|BA|BHA|CA|CHA|DA|DDA|DDDA|DDHA|DHA|E|GA|GHA|HA|I|JA|
JJA|KA|KHA|LA|MA|NA|NNA|NYA|PA|PHA|RA|RHA|RRA|SA|TA|THA|TTA|TTHA|U|VA|YA)|SECTION MARK)|MULTIMAP|
MULTIPLE MUSICAL NOTES|MULTIPLICATION (SIGN( (IN ((DOUBLE|LEFT HALF|RIGHT HALF) CIRCLE|TRIANGLE)|
WITH (DOT ABOVE|UNDERBAR))|)|X)|MULTISET( (MULTIPLICATION|UNION)|)|MUSHROOM|MUSIC (FLAT|NATURAL|
SHARP) SIGN|MUSICAL( (KEYBOARD( WITH JACKS|)|NOTE|SCORE|SYMBOL( ((ARPEGGIATO|FLAT|GLISSANDO|
NATURAL|SHARP) (DOWN|UP)|BEGIN (BEAM|PHRASE|SLUR|TIE)|BRACE|BRACKET|BREATH MARK|BREVE|BREVIS( REST|
)|C CLEF|CAESURA|(CIRCLE X|NULL|PARENTHESIS|PLUS|VOID|X) NOTEHEAD|CLIMACUS|CLIVIS|
(CLUSTER NOTEHEAD|FUSA|MOON NOTEHEAD) (BLACK|WHITE)|CODA|COMBINING( ((ACCENT|MARCATO)(-STACCATO|)|
AUGMENTATION DOT|BEND|DOIT|(DOUBLE|TRIPLE) TONGUE|DOWN BOW|FLAG(-(1~5))|FLIP|HARMONIC|LOURE|RIP|
SMEAR|SNAP PIZZICATO|SPRECHGESANG STEM|STACCATISSIMO|STACCATO|STEM|TENUTO|TREMOLO(-(1~3))|UP BOW))|
(COMMON|CUT) TIME|CRESCENDO|CROIX|DA CAPO|DAL SEGNO|DAMP( ALL|)|(DASHED|FINAL|REVERSE FINAL|SHORT|
SINGLE) BARLINE|DECRESCENDO|DEGREE SLASH|DOUBLE (BARLINE|FLAT|SHARP)|DRUM CLEF-(1|2)|(EIGHTH|
SIXTEENTH|SIXTY-FOURTH|THIRTY-SECOND|WHOLE) (NOTE|REST)|END (BEAM|OF STIMME|PHRASE|SLUR|TIE)|(F|
G) CLEF( OTTAVA (ALTA|BASSA)|)|FERMATA( BELOW|)|(FINGERED TREMOLO|REPEATED FIGURE)(-(1~3))|(FIVE|
THREE|TWO)-LINE STAFF|FORTE|(FOUR|SIX)-(LINE STAFF|STRING FRETBOARD)|GRACE NOTE (NO SLASH|SLASH)|
GREGORIAN (C|F) CLEF|HALF (NOTE|PEDAL MARK|REST)|HAUPTSTIMME|INVERTED TURN|KIEVAN (C CLEF|(EIGHTH|
QUARTER) NOTE STEM (DOWN|UP)|END OF PIECE|(FINAL|HALF|WHOLE) NOTE|FLAT SIGN|RECITATIVE MARK)|KORON|
(LEFT|RIGHT) REPEAT SIGN|LONGA( (IMPERFECTA|PERFECTA) REST|)|MAXIMA|MEZZO|MINIMA( (BLACK|REST)|)|
(MULTI|MULTIPLE MEASURE) REST|NEBENSTIMME|NOTEHEAD BLACK|ONE( HUNDRED TWENTY-EIGHTH (NOTE|REST)|
-LINE STAFF)|ORNAMENT( (STROKE(-(1~11))))|(OTTAVA|QUINDICESIMA) (ALTA|BASSA)|PEDAL (MARK|UP MARK)|
PES SUBPUNCTIS|PIANO|PODATUS|(PORRECTUS|SCANDICUS)( FLEXUS|)|QUARTER (NOTE|REST|TONE (FLAT|SHARP))|
REPEAT DOTS|RINFORZANDO|SEGNO|(SEMIBREVIS|SEMIMINIMA) (BLACK|REST|WHITE)|SORI|SQUARE (B|
NOTEHEAD (BLACK|WHITE))|SUBITO|TEMPUS( (IMPERFECTUM( (CUM( (PROLATIONE( (IMPERFECTA( (DIMINUTION(-(
1~3)))|)|PERFECTA))))))|PERFECTUM CUM PROLATIONE (IMPERFECTA|PERFECTA( DIMINUTION-1|))))|
TORCULUS( RESUPINUS|)|TR|TRIANGLE( NOTEHEAD ((DOWN|LEFT|RIGHT) (BLACK|WHITE)|UP (BLACK|
RIGHT (BLACK|WHITE)|WHITE))|-ROUND NOTEHEAD DOWN (BLACK|WHITE))|TURN( (SLASH|UP)|)|VIRGA|
WITH FINGERNAILS|Z))))|MVS|MW|MYANMAR( (CONSONANT SIGN (MEDIAL (HA|RA|WA|YA)|MON MEDIAL (LA|MA|NA)|
SHAN MEDIAL WA)|(DIGIT|SHAN DIGIT|TAI LAING DIGIT) (EIGHT|FIVE|FOUR|NINE|ONE|SEVEN|SIX|THREE|TWO|
ZERO)|LETTER (A|AITON RA|AU|BA|BHA|CA|CHA|DA|DDA|DDHA|DHA|E|EASTERN PWO KAREN (GHWA|NNA|YWA)|GA|
GHA|GREAT SA|HA|I|II|JA|JHA|KA|KHA|KHAMTI (CA|CHA|DDA|DDHA|DHA|FA|GA|HA|HHA|JA|JHA|LLA|NA|NYA|RA|
SA|TTA|TTHA|XA|ZA)|LA|LLA|MA|MON (BBA|BBE|E|JHA|NGA)|NA|NGA|NNA|NNYA|NYA|O|PA|PHA|RA|
RUMAI PALAUNG FA|SA|SGAW KAREN SHA|SHA|SHAN (A|BA|BHA|CA|CHA|DA|FA|GA|GHA|HA|JHA|KA|KHA|NA|NNA|NYA|
PHA|THA|ZA)|SHWE PALAUNG (CHA|SHA)|SSA|TA|TAI LAING (BA|BHA|DA|DDA|DDHA|DHA|FA|GA|GHA|JA|JHA|LLA|
NNA|NYA)|THA|TTA|TTHA|U|UU|VOCALIC (L|LL|R|RR)|WA|WESTERN PWO KAREN (PWA|THA)|YA)|
LOGOGRAM KHAMTI (HM|OAY|QN)|MODIFIER LETTER (KHAMTI|SHAN) REDUPLICATION|SIGN( (ANUSVARA|ASAT|
DOT BELOW|KHAMTI TONE-(1|3)|LITTLE SECTION|PAO KAREN TONE|RUMAI PALAUNG TONE-5|SECTION|
SHAN (COUNCIL (EMPHATIC TONE|TONE-(2|3))|SAW|TONE-(2|3|5|6))|TAI LAING TONE-(2|5)|VIRAMA|VISARGA|
WESTERN( (PWO( (KAREN( (TONE(-(1~5))))))))))|SYMBOL (AFOREMENTIONED|AITON (EXCLAMATION|ONE|TWO)|
COMPLETED|GENITIVE|LOCATIVE|SHAN (EXCLAMATION|ONE))|TONE MARK SGAW KAREN (HATHI|KE PHO)|
VOWEL SIGN (AA|AI|AITON (A|AI)|E( ABOVE|)|GEBA KAREN I|I|II|KAYAH (EE|OE|U)|MON (II|O)|
SGAW KAREN EU|SHAN (AA|E( ABOVE|)|FINAL Y)|TALL AA|U|UU|VOCALIC (L|LL|R|RR)|WESTERN PWO KAREN (EU|
UE))))|N-ARY (CIRCLED (DOT|PLUS|TIMES) OPERATOR|COPRODUCT|INTERSECTION|LOGICAL (AND|OR)|PRODUCT|
SQUARE (INTERSECTION|UNION) OPERATOR|SUMMATION|TIMES OPERATOR|UNION( OPERATOR WITH (DOT|PLUS)|)|
WHITE VERTICAL BAR)|NABATAEAN (CRUCIFORM NUMBER FOUR|LETTER (ALEPH|AYIN|BETH|DALETH|FINAL (ALEPH|
BETH|HE|KAPH|LAMEDH|MEM|NUN|SHIN|YODH)|GIMEL|HE|HETH|KAPH|LAMEDH|MEM|NUN|PE|QOPH|RESH|SADHE|SAMEKH|
SHIN|TAW|TETH|WAW|YODH|ZAYIN)|NUMBER (FIVE|FOUR|ONE( HUNDRED|)|TEN|THREE|TWENTY|TWO))|NABLA|
NAIL POLISH|NAK|NAME BADGE|NAND|NANDINAGARI (HEADSTROKE|LETTER (A|AA|AI|AU|BA|BHA|CA|CHA|DA|DDA|
DDHA|DHA|E|GA|GHA|HA|I|II|JA|JHA|KA|KHA|LA|LLA|MA|NA|NGA|NNA|NYA|O|PA|PHA|RA|RRA|SA|SHA|SSA|TA|THA|
TTA|TTHA|U|UU|VA|VOCALIC (R|RR)|YA)|SIGN (ANUSVARA|AVAGRAHA|SIDDHAM|VIRAMA|VISARGA)|VOWEL SIGN (AA|
AI|AU|E|I|II|O|PRISHTHAMATRA E|U|UU|VOCALIC (R|RR)))|NATIONAL (DIGIT SHAPES|PARK)|NAZAR AMULET|NBH|
NBSP|NECKTIE|NEGATED DOUBLE VERTICAL BAR DOUBLE RIGHT TURNSTILE|NEGATIVE (ACKNOWLEDGE|
CIRCLED (DIGIT ZERO|LATIN CAPITAL LETTER (A|B|C|D|E|F|G|H|I|J|K|L|M|N|O|P|Q|R|S|T|U|V|W|X|Y|Z)|
NUMBER (EIGHTEEN|ELEVEN|FIFTEEN|FOURTEEN|NINETEEN|SEVENTEEN|SIXTEEN|THIRTEEN|TWELVE|TWENTY)|SQUARE|
TRIANGLE)|DIAGONAL (CROSS|DIAMOND|MIDDLE RIGHT TO LOWER CENTRE)|SQUARED (AB|(CROSS|QUESTION) MARK|
IC|LATIN CAPITAL LETTER (A|B|C|D|E|F|G|H|I|J|K|L|M|N|O|P|Q|R|S|T|U|V|W|X|Y|Z)|PA|SA|WC))|
NEITHER (A (SUBSET|SUPERSET) OF NOR EQUAL TO|APPROXIMATELY NOR ACTUALLY EQUAL TO|
GREATER-THAN NOR (EQUAL TO|EQUIVALENT TO|LESS-THAN)|LESS-THAN NOR (EQUAL TO|EQUIVALENT TO|
GREATER-THAN))|NEL|NEPTUNE( FORM TWO|)|NESSUS|NEST WITH EGGS|NESTING DOLLS|NEUTER|
NEUTRAL (CHESS ((BISHOP|KING|PAWN|QUEEN|ROOK)( ROTATED (NINETY|TWO HUNDRED SEVENTY) DEGREES|)|
EQUIHOPPER( ROTATED NINETY DEGREES|)|KNIGHT( ROTATED ((FORTY-FIVE|NINETY|ONE HUNDRED THIRTY-FIVE|
THREE HUNDRED FIFTEEN) DEGREES|TWO HUNDRED (SEVENTY|TWENTY-FIVE) DEGREES)|)|TURNED (BISHOP|KING|
KNIGHT|PAWN|QUEEN|ROOK))|FACE)|NEW (LINE|MOON (SYMBOL|WITH FACE)|SHEQEL SIGN|TAI LUE (DIGIT (EIGHT|
FIVE|FOUR|NINE|ONE|SEVEN|SIX|THREE|TWO|ZERO)|LETTER (FINAL (B|D|K|M|N|NG|V)|(HIGH|LOW) (BA|DA|FA|
HA|KA|KVA|LA|MA|NA|NGA|PA|PHA|QA|SA|SUA|TA|THA|TSA|VA|XA|XVA|YA))|SIGN (LAE|LAEV)|THAM DIGIT ONE|
TONE MARK-(1|2)|VOWEL SIGN (AA|AAY|AE|AY|E|II|IY|O|OA|OAY|OY|U|UE|UEY|UU|UY|VOWEL SHORTENER)))|
NEWA ((ABBREVIATION|INSERTION) SIGN|COMMA|DANDA|DIGIT (EIGHT|FIVE|FOUR|NINE|ONE|SEVEN|SIX|THREE|
TWO|ZERO)|DOUBLE (COMMA|DANDA)|GAP FILLER|LETTER (A|AA|AI|AU|BA|BHA|CA|CHA|DA|DDA|DDHA|DHA|E|GA|
GHA|HA|I|II|JA|JHA|KA|KHA|LA|LHA|MA|MHA|NA|NGA|NGHA|NHA|NNA|NYA|NYHA|O|PA|PHA|RA|RHA|SA|SHA|SSA|TA|
THA|TTA|TTHA|U|UU|VEDIC ANUSVARA|VOCALIC (L|LL|R|RR)|WA|YA)|OM|(PLACEHOLDER|SANDHI) MARK|SIDDHI|
SIGN (ANUSVARA|AVAGRAHA|CANDRABINDU|FINAL ANUSVARA|JIHVAMULIYA|NUKTA|UPADHMANIYA|VIRAMA|VISARGA)|
VOWEL SIGN (AA|AI|AU|E|I|II|O|U|UU|VOCALIC (L|LL|R|RR)))|NEWSPAPER|NEXT (LINE|PAGE)|
NIGHT WITH STARS|NINJA|NKO (COMBINING (DOUBLE DOT ABOVE|LONG (DESCENDING|HIGH|LOW|RISING) TONE|
NASALIZATION MARK|SHORT (HIGH|LOW|RISING) TONE)|COMMA|DANTAYALAN|DIGIT (EIGHT|FIVE|FOUR|NINE|ONE|
SEVEN|SIX|THREE|TWO|ZERO)|(DOROME|TAMAN) SIGN|EXCLAMATION MARK|(HIGH|LOW) TONE APOSTROPHE|
LAJANYALAN|LETTER (A|BA|CHA|DA|DAGBASINNA|E|EE|FA|GBA|HA|I|JA|JONA (CHA|JA|RA)|KA|LA|MA|N|(NA|
NYA)( WOLOSO|)|O|OO|PA|RA|RRA|SA|TA|U|WA|YA)|SYMBOL (GBAKURUNEN|OO DENNEN))|NL|NNBSP|NO( (BICYCLES|
BREAK HERE|ENTRY( SIGN|)|MOBILE PHONES|(ONE UNDER EIGHTEEN|SMOKING) SYMBOL|PEDESTRIANS|PIRACY)|
-BREAK SPACE)|NOMINAL DIGIT SHAPES|NON-(BREAKING HYPHEN|POTABLE WATER SYMBOL)|NONFORKING|NOR|
NORTH (EAST ((AND SOUTH WEST|BLACK|DOUBLE|SANS-SERIF|WHITE) ARROW|ARROW( (AND SOUTH EAST ARROW|
CROSSING (NORTH WEST|SOUTH EAST) ARROW|WITH HOOK)|)|POINTING (BUD|LEAF|VINE LEAF)|
TRIANGLE-HEADED ARROW( TO BAR|))|INDIC (FRACTION (ONE (EIGHTH|HALF|QUARTER|SIXTEENTH)|
THREE (QUARTERS|SIXTEENTHS))|(PLACEHOLDER|QUANTITY|QUARTER|RUPEE) MARK)|WEST ((AND SOUTH EAST|
BLACK|DOUBLE|SANS-SERIF|WHITE) ARROW|ARROW( ((AND|CROSSING) NORTH EAST ARROW|TO (CORNER|LONG BAR)|
WITH HOOK)|)|POINTING (BUD|LEAF|VINE LEAF)|TRIANGLE-HEADED ARROW( TO BAR|)))|
NORTHEAST-POINTING AIRPLANE|NOSE|NOT (A (SUBSET OF|SUPERSET OF)|(ALMOST EQUAL|ASYMPTOTICALLY EQUAL|
EQUAL|EQUIVALENT|IDENTICAL|PARALLEL) TO|AN ELEMENT OF|CHECK MARK|(GREATER|LESS)-THAN|
NORMAL SUBGROUP OF( OR EQUAL TO|)|SIGN|SQUARE (IMAGE|ORIGIN(AL)) OF OR EQUAL TO|TILDE|TRUE)|
NOTCHED ((LEFT|RIGHT) SEMICIRCLE WITH THREE DOTS|(LOWER|
UPPER) RIGHT-SHADOWED WHITE RIGHTWARDS ARROW)|NOTE( (PAD|PAGE)|)|NOTEBOOK( WITH DECORATIVE COVER|)|
NUL|NULL|NUMBER ((EIGHTEEN|ELEVEN|FIFTEEN|FOURTEEN|NINETEEN|SEVENTEEN|SIXTEEN|TEN|THIRTEEN|TWELVE|
TWENTY) FULL STOP|SIGN)|NUT AND BOLT|NYIAKENG PUACHUE HMONG (CIRCLED CA|DIGIT (EIGHT|FIVE|FOUR|
NINE|ONE|SEVEN|SIX|THREE|TWO|ZERO)|LETTER (A|AA|CA|DA|DLA|E|EE|FA|GA|HA|HAH|I|KA|LA|MA|MLA|NA|NCA|
NKA|NPA|NPLA|NQA|NRA|NTA|NTSA|NTXA|NYA|O|OO|PA|PLA|QA|RA|RRA|SA|TA|TSA|TXA|U|VA|W|XA|XYA|YA|ZA)|
LOGOGRAM NYAJ|SIGN (FOR (ANIMAL|INVERTEBRATE|LOCATION|PERSON|THING)|XW XW)|SYLLABLE LENGTHENER|
TONE-(B|D|G|J|M|S|V))|(OBJECT REPLACEMENT|PADDING|REPLACEMENT) CHARACTER|
OBLIQUE (ANGLE OPENING (DOWN|UP)|HYPHEN)|OCR (AMOUNT OF CHECK|BELT BUCKLE|BOW TIE|
BRANCH BANK IDENTIFICATION|CHAIR|CUSTOMER ACCOUNT NUMBER|DASH|DOUBLE BACKSLASH|FORK|HOOK|
INVERTED FORK)|OCTOPUS|ODEN|OGHAM ((FEATHER|REVERSED FEATHER|SPACE) MARK|LETTER (AILM|BEITH|CEIRT|
COLL|DAIR|EABHADH|EADHADH|EAMHANCHOLL|FEARN|GORT|IFIN|IODHADH|LUIS|MUIN|NGEADAL|NION|ONN|OR|PEITH|
RUIS|SAIL|STRAIF|TINNE|UATH|UILLEANN|UR))|OGONEK|OIL DRUM|OL CHIKI (AHAD|DIGIT (EIGHT|FIVE|FOUR|
NINE|ONE|SEVEN|SIX|THREE|TWO|ZERO)|GAAHLAA TTUDDAAG|LETTER (AAJ|AAK|AAM|AAW|AG|AL|ANG|AT|EDD|EN|EP|
ERR|IH|INY|IR|IS|LA|LAA|LE|LI|LO|LU|OB|OH|OTT|OV|UC|UD|UNN|UY)|MU( TTUDDAG|-GAAHLAA TTUDDAAG)|
PHAARKAA|PUNCTUATION (DOUBLE MUCAAD|MUCAAD)|RELAA)|OLD( (CHINESE (HOOK|ITERATION) MARK|
HUNGARIAN ((CAPITAL|SMALL) LETTER (A|AA|AK|AMB|AND|CLOSE E|E|EB|EC|ECH|ECS|ED|EE|EF|EG|EGY|EH|EJ|
EK|EL|ELY|EM|EMP|EN|ENC|ENT(-SHAPED SIGN|)|ENY|EP|ER|ES|ESZ|ET|ETY|EV|EZ|EZS|I|II|(NIKOLSBURG|
RUDIMENTA) (OE|UE)|O|OEE|OO|SHORT ER|U|UNK|US|UU)|NUMBER (FIFTY|FIVE|ONE( (HUNDRED|THOUSAND)|)|
TEN))|ITALIC (LETTER (A|BE|CHE|DE|E|EF|EKS|EL|EM|EN|ER|ERS|ES|ESH|ESS|HE|I|II|KA|KE|KHE|KU|
NORTHERN TSE|O|PE|PHE|SHE|SOUTHERN TSE|TE|THE|U|UU|VE|YE|ZE)|NUMERAL (FIFTY|FIVE|ONE|TEN))|KEY|
NORTH( (ARABIAN( (LETTER( (AIN|ALEF|BEH|DAD|DAL|ES(-(1~3))|FEH|GEEM|GHAIN|HAH|HEH|KAF|KHAH|LAM|
MEEM|NOON|QAF|REH|SAD|TAH|TEH|THAL|THEH|WAW|YEH|ZAH|ZAIN))|NUMBER (ONE|TEN|TWENTY)))))|
PERMIC LETTER (AN|BUR|CHERY|DOI|DZHOI|DZITA|E|EF|GAI|HA|I|IA|IE|KOKE|LEI|MENOE|NENOE|O|OO|PEEI|REI|
SHCHOOI|SHOOI|SII|TAI|TSIU|U|VER|VOOI|YA|YAT|YER|YERI|YERU|YRY|YU|ZATA|ZHOI)|
PERSIAN (NUMBER (HUNDRED|ONE|TEN|TWENTY|TWO)|SIGN (A|(AURAMAZDAA|DAHYAAUSH)(-2|)|AURAMAZDAAHA|BA|
BAGA|BUUMISH|CA|DA|DI|DU|FA|GA|GU|HA|I|JA|JI|KA|KU|LA|MA|MI|MU|NA|NU|PA|RA|RU|SA|SHA|SSA|TA|THA|TU|
U|VA|VI|XA|XSHAAYATHIYA|YA|ZA)|WORD DIVIDER)|PERSONAL COMPUTER|SOGDIAN (FRACTION ONE HALF|
LETTER (ALEPH|ALTERNATE AYIN|AYIN|BETH|FINAL (ALEPH|BETH|HE|(NUN|SADHE|TAW)( WITH VERTICAL TAIL|))|
GIMEL|HE|HETH|KAPH|LAMEDH|MEM|NUN|PE|RESH-AYIN-DALETH|SADHE|SAMEKH|SHIN|TAW|WAW|YODH|ZAYIN)|
LIGATURE AYIN-DALETH|NUMBER (FIVE|FOUR|ONE( HUNDRED|)|TEN|THIRTY|THREE|TWENTY|TWO))|
SOUTH ARABIAN (LETTER (ALEF|AYN|BETH|DALETH|DHADHE|DHALETH|FE|GHAYN|GIMEL|HE|HETH|KAPH|KHETH|
LAMEDH|MEM|NUN|QOPH|RESH|SADHE|SAMEKH|SAT|SHIN|TAW|TETH|THAW|THETH|WAW|YODH|ZAYN)|NUMBER (FIFTY|
ONE)|NUMERIC INDICATOR)|TURKIC LETTER (ORKHON (A|AB|AD|AEB|AED|AEG|AEK|AEL|AEN|AER|AES|AET|AEY|AG|
AL|AN|AQ|AR|AS|ASH|AT|AY|BASH|EC|ELT|EM|ENC|ENG|ENT|ENY|EP|ESH|EZ|I|IC|IQ|O|OE|OEK|OP|OQ|OT)|
YENISEI (A|AB|AD|AE|AEB|AEG|AEK|AEN|AENG|AET|AEY|AG|AL|ANG|AQ|AR|ASH|AT|AY|E|EC|ENC|ENT|ENY|ESH|EZ|
I|IQ|OE|OEK|OQ))|UYGHUR (COMBINING (DOT|TWO DOTS) (ABOVE|BELOW)|LETTER (ALEPH|BETH|FINAL HETH|
GIMEL-HETH|KAPH|LAMEDH|LESH|MEM|NUN|PE|RESH|SADHE|SAMEKH|SHIN|TAW|WAW|YODH|ZAYIN)|PUNCTUATION (BAR|
FOUR DOTS|TWO (BARS|DOTS)))))|OLDER (ADULT|MAN|WOMAN)|OLIVE|ONCOMING (AUTOMOBILE|BUS|FIRE ENGINE|
POLICE CAR|TAXI)|ONE( (BUTTON MOUSE|DOT (LEADER|OVER TWO DOTS PUNCTUATION))|-PIECE SWIMSUIT)|ONION|
OPEN( (BOOK|BOX|CENTRE (ASTERISK|BLACK STAR|CROSS|TEARDROP-SPOKED ASTERISK)|FILE FOLDER|FOLDER|
HANDS SIGN|LOCK|MAILBOX WITH (LOWERED|RAISED) FLAG|SUBSET|SUPERSET)|-(CIRCUIT-OUTPUT (H|
L)-TYPE SYMBOL|OUTLINED RIGHTWARDS ARROW))|OPHIUCHUS|OPPOSITION|(OPTICAL DISC|PRINTER)( ICON|)|
OPTION KEY|OR WITH DOT INSIDE|ORANGUTAN|ORIYA ((AI|AU) LENGTH MARK|DIGIT (EIGHT|FIVE|FOUR|NINE|ONE|
SEVEN|SIX|THREE|TWO|ZERO)|FRACTION (ONE (EIGHTH|HALF|QUARTER|SIXTEENTH)|THREE (QUARTERS|
SIXTEENTHS))|ISSHAR|LETTER (A|AA|AI|AU|BA|BHA|CA|CHA|DA|DDA|DDHA|DHA|E|GA|GHA|HA|I|II|JA|JHA|KA|
KHA|LA|LLA|MA|NA|NGA|NNA|NYA|O|PA|PHA|RA|RHA|RRA|SA|SHA|SSA|TA|THA|TTA|TTHA|U|UU|VA|VOCALIC (L|LL|
R|RR)|WA|YA|YYA)|SIGN (ANUSVARA|AVAGRAHA|CANDRABINDU|NUKTA|OVERLINE|VIRAMA|VISARGA)|VOWEL SIGN (AA|
AI|AU|E|I|II|O|U|UU|VOCALIC (L|LL|R|RR)))|ORNATE (LEFT|RIGHT) PARENTHESIS|OSAGE (CAPITAL|
SMALL) LETTER (A|AH|AI|AIN|BRA|CHA|DHA|E|EHCHA|EHKA|EHPA|EHTA|EHTSA|EIN|GHA|HA|HYA|I|KA|KHA|KYA|LA|
MA|NA|O|OIN|PA|SA|SHA|TA|TSA|TSHA|U|WA|ZA|ZHA)|OSC|OSMANYA (DIGIT (EIGHT|FIVE|FOUR|NINE|ONE|SEVEN|
SIX|THREE|TWO|ZERO)|LETTER (A|AA|ALEF|BA|CAYN|DEEL|DHA|E|EE|FA|GA|HA|I|JA|KAAF|KHA|LAAN|MIIN|NUUN|
O|OO|QAAF|RA|SA|SHIIN|TA|U|WAW|XA|YA))|OTTER|OTTOMAN SIYAQ (ALTERNATE NUMBER (EIGHT|FIVE|(FOUR|
SIX)( HUNDRED|)|NINE|SEVEN|(TEN|TWO)( THOUSAND|)|THREE)|FRACTION ONE (HALF|SIXTH)|MARRATAN|
NUMBER ((EIGHT|FIVE|FOUR|NINE|ONE|SEVEN|SIX|THREE|TWO)( (HUNDRED|THOUSAND)|)|(EIGHTY|FIFTY|FORTY|
NINETY|SEVENTY|SIXTY|TEN|THIRTY|TWENTY)( THOUSAND|)))|OUTLINED ((BLACK|WHITE) STAR|(GREEK|
LATIN) CROSS)|OVERLAP|OVERLAPPING (BLACK SQUARES|WHITE (AND BLACK SQUARES|SQUARES))|OVERLINE|OWL|
OX|OYSTER|PACKAGE|PAD|PAGE( (FACING UP|WITH (CIRCLED TEXT|CURL))|)|PAGER|PAGES|PAGODA|
PAHAWH HMONG (CLAN SIGN (FAJ|HAM|HAWJ|KHAB|KOO|KWM|LAUJ|LIS|MUAS|PHAB|THOJ|TSAB|TSHEEJ|TSWB|VAJ|
VWJ|XYOOJ|YAJ|YEEG)|CONSONANT (AU|CAU|CHAU|HAU|HLAU|HNAU|LAU|MAU|NAU|NCHAU|NKAU|NLAU|NTHAU|NTSAU|
PLHAU|QHAU|RAU|VAU|XAU|YAU)|DIGIT (EIGHT|FIVE|FOUR|NINE|ONE|SEVEN|SIX|THREE|TWO|ZERO)|
MARK CIM (HOM|KES|KHAV|SO|SUAM|TAUM|TUB)|NUMBER (HUNDRED MILLIONS|HUNDREDS|MILLIONS|TEN (BILLIONS|
THOUSANDS)|TENS|TRILLIONS)|SIGN (AV|CIM (CHEEM|CUAM TSHOOJ|HAIS LUS NTOG NTOG|NRES TOS|PUB DAWB|
TSOV ROG|TXWV( CHWV|))|HLI|HNUB|IB YAM|LOS|MEEJ (SUAB|TSEEB)|MUS|NQIG|NTUJ|TAU|THIRD-STAGE HLI|
TXHEEJ CEEV|VOS (FEEM|LUB|NRUA|SEEV|THIAB|THOM|TSHAB CEEB)|XAUS|XIAB|XYEEM (FAIB|NTXIV|RHO|TOV)|
XYOO|ZWJ THAJ)|VOWEL (KAAB|KAAV|KAB|KAIB|KAIV|KAUB|KAUV|KAV|KAWB|KAWV|KEB|KEEB|KEEV|KEV|KIAB|KIAV|
KIB|KIV|KOB|KOOB|KOOV|KOV|KUAB|KUAV|KUB|KUV|KWB|KWV))|PALLAS|PALM (BRANCH|(DOWN|UP) HAND|TREE)|
PALMS UP TOGETHER|PALMYRENE ((LEFT|RIGHT)-POINTING FLEURON|LETTER (ALEPH|AYIN|BETH|DALETH|
FINAL NUN|GIMEL|HE|HETH|KAPH|LAMEDH|MEM|NUN|PE|QOPH|RESH|SADHE|SAMEKH|SHIN|TAW|TETH|WAW|YODH|
ZAYIN)|NUMBER (FIVE|FOUR|ONE|TEN|THREE|TWENTY|TWO))|PANCAKES|PAPERCLIP|PARACHUTE|(PARAGRAPH|RECORD|
UNIT) SEPARATOR|PARAGRAPHOS|PARALLEL (TO|WITH (HORIZONTAL STROKE|TILDE OPERATOR))|
PARENTHESIZED (DIGIT (EIGHT|FIVE|FOUR|NINE|ONE|SEVEN|SIX|THREE|TWO)|HANGUL ((CHIEUCH|HIEUH|IEUNG|
KHIEUKH|KIYEOK|MIEUM|NIEUN|PHIEUPH|PIEUP|RIEUL|SIOS|THIEUTH|TIKEUT)( A|)|CIEUC( (A|U)|))|
IDEOGRAPH (ALLIANCE|CALL|CONGRATULATION|EARTH|EIGHT|ENTERPRISE|FESTIVAL|FINANCIAL|FIRE|FIVE|FOUR|
HAVE|LABOR|METAL|MOON|NAME|NINE|ONE|REACH|REPRESENT|RESOURCE|REST|SELF|SEVEN|SIX|SOCIETY|SPECIAL|
STOCK|STUDY|SUN|SUPERVISE|TEN|THREE|TWO|WATER|WOOD)|KOREAN CHARACTER (O HU|OJEON)|LATIN (CAPITAL|
SMALL) LETTER (A|B|C|D|E|F|G|H|I|J|K|L|M|N|O|P|Q|R|S|T|U|V|W|X|Y|Z)|NUMBER (EIGHTEEN|ELEVEN|
FIFTEEN|FOURTEEN|NINETEEN|SEVENTEEN|SIXTEEN|TEN|THIRTEEN|TWELVE|TWENTY))|PARROT|
PARTIAL (DIFFERENTIAL|LINE (BACKWARD|DOWN|FORWARD|UP))|PARTY POPPER|PASSENGER SHIP|
PASSIVE-PULL-(DOWN|UP)-OUTPUT SYMBOL|PASSPORT CONTROL|PAU CIN HAU (GLOTTAL STOP( (FINAL|VARIANT)|)|
LETTER (A|BA|CA|CHA|DA|E|FA|FINAL (K|L|M|N|NG|P|T|W|Y)|GA|HA|I|IA|KA|KHA|LA|MA|NA|NGA|O|PA|PHA|RA|
SA|TA|THA|U|UA|VA|ZA)|(LOW-FALLING|RISING) TONE( (FINAL|LONG( FINAL|))|)|MID-LEVEL TONE( (FINAL|
LONG FINAL)|)|SANDHI (GLOTTAL STOP( FINAL|)|TONE( (FINAL|LONG( FINAL|))|)))|PAW PRINTS|PDF|PDI|
PEACH|PEACOCK|PEANUTS|PEAR|PEDESTRIAN|PENCIL|PENGUIN|PENTAGRAM|PEOPLE HUGGING|PER ((MILLE|
TEN THOUSAND) SIGN|SIGN)|PERFORMING ARTS|PERPENDICULAR( WITH S|)|PERSON (BOWING DEEPLY|CLIMBING|
DOING CARTWHEEL|FROWNING|IN (LOTUS POSITION|STEAMY ROOM)|RAISING BOTH HANDS IN CELEBRATION|
WITH (BALL|BLOND HAIR|CROWN|FOLDED HANDS|HEADSCARF|POUTING FACE))|PERSONAL COMPUTER|PERSPECTIVE|
PETRI DISH|PHAGS-PA ((DOUBLE|SINGLE) HEAD MARK|LETTER (A|ALTERNATE YA|ASPIRATED FA|BA|CA|
CANDRABINDU|CHA|DA|DDA|DZA|E|EE|FA|GA|GGA|HA|I|JA|KA|KHA|LA|MA|NA|NGA|NNA|NYA|O|PA|PHA|QA|RA|SA|
SHA|SMALL A|TA|THA|TSA|TSHA|TTA|TTHA|U|VOICED HA|VOICELESS SHA|WA|XA|YA|ZA|ZHA)|MARK (DOUBLE SHAD|
SHAD)|SUBJOINED LETTER (RA|WA|YA)|SUPERFIXED LETTER RA)|PHAISTOS DISC SIGN (ARROW|BEE|BEEHIVE|
BOOMERANG|BOW|BULLS LEG|CAPTIVE|CARPENTRY PLANE|CAT|CHILD|CLUB|COLUMN|COMB|
COMBINING OBLIQUE STROKE|DOLIUM|DOVE|EAGLE|FLUTE|GAUNTLET|GRATER|HELMET|HIDE|HORN|LID|LILY|
MANACLES|MATTOCK|OX BACK|PAPYRUS|PEDESTRIAN|PLANE TREE|(PLUMED|TATTOOED) HEAD|RAM|ROSETTE|SAW|
SHIELD|SHIP|SLING|SMALL AXE|STRAINER|TIARA|TUNNY|VINE|WAVY BAND|WOMAN)|PHILIPPINE (DOUBLE|
SINGLE) PUNCTUATION|PHOENICIAN (LETTER (AIN|ALF|BET|DELT|GAML|HE|HET|KAF|LAMD|MEM|NUN|PE|QOF|ROSH|
SADE|SEMK|SHIN|TAU|TET|WAU|YOD|ZAI)|NUMBER (ONE( HUNDRED|)|TEN|THREE|TWENTY|TWO)|WORD SEPARATOR)|
PHOLUS|PICK|PIE|PIG( (FACE|NOSE)|)|PILE OF POO|PILL|PINATA|PINCHED FINGERS|PINE DECORATION|
PINEAPPLE|PISCES|PISTOL|PITCHFORK( WITH TEE TOP|)|PLACARD|PLACE OF (INTEREST SIGN|WORSHIP)|
PLANCK CONSTANT( OVER TWO PI|)|PLAYGROUND SLIDE|PLAYING( (CARD( ((ACE|EIGHT|FIVE|FOUR|JACK|KING|
KNIGHT|NINE|QUEEN|SEVEN|SIX|TEN|THREE|TWO) OF (CLUBS|DIAMONDS|HEARTS|SPADES)|BACK|(BLACK|RED|
WHITE) JOKER|FOOL|TRUMP(-(1~21))))))|PLD|PLU|PLUNGER|PLUS( SIGN( (ABOVE EQUALS SIGN|IN ((LEFT|
RIGHT) HALF CIRCLE|TRIANGLE)|WITH (BLACK TRIANGLE|(CIRCUMFLEX ACCENT|SMALL CIRCLE) ABOVE|DOT BELOW|
SUBSCRIPT TWO|TILDE (ABOVE|BELOW)))|)|-MINUS SIGN)|PLUTO( FORM (FIVE|FOUR|THREE|TWO)|)|PM|
POCKET CALCULATOR|POLICE (CAR|CARS REVOLVING LIGHT|OFFICER)|POODLE|POP DIRECTIONAL (FORMATTING|
ISOLATE)|POPCORN|PORTABLE STEREO|POSEIDON|POSTAL (HORN|MARK( FACE|))|POSTBOX|POTATO|POTTED PLANT|
POUCH|POULTRY LEG|POURING LIQUID|POWER (ON( |-OFF )SYMBOL|SLEEP SYMBOL|SYMBOL)|PRAYER BEADS|
(PRECEDES|SUCCEEDS)( (ABOVE (ALMOST EQUAL TO|EQUALS SIGN|NOT (ALMOST EQUAL TO|EQUAL TO)|
SINGLE-LINE (EQUALS SIGN|NOT EQUAL TO))|BUT NOT EQUIVALENT TO|OR (EQUAL TO|EQUIVALENT TO)|
UNDER RELATION)|)|PREGNANT (MAN|PERSON|WOMAN)|PRESCRIPTION TAKE|
PRESENTATION FORM FOR VERTICAL (COLON|COMMA|(EM|EN) DASH|(EXCLAMATION|QUESTION) MARK|
HORIZONTAL ELLIPSIS|IDEOGRAPHIC (COMMA|FULL STOP)|LEFT ((ANGLE|BLACK LENTICULAR|CORNER|CURLY|
DOUBLE ANGLE|SQUARE|TORTOISE SHELL) BRACKET|PARENTHESIS|WHITE (CORNER|LENTICULAR) BRACKET)|(LOW|
WAVY LOW) LINE|RIGHT ((ANGLE|BLACK LENTICULAR|CORNER|CURLY|DOUBLE ANGLE|SQUARE|
TORTOISE SHELL) BRACKET|PARENTHESIS|WHITE (CORNER BRACKET|LENTICULAR (BRACKET|BRAKCET)))|SEMICOLON|
TWO DOT LEADER)|PRETZEL|PREVIOUS PAGE|PRIME|PRINCE|PRINCESS|PRIVACY MESSAGE|PRIVATE USE( (ONE|TWO)|
-(1|2))|PROBING CANE|PROJECTIVE|(PROPERTY|WIGGLY VERTICAL) LINE|PROPORTION|PROSERPINA|
PSALTER PAHLAVI (FOUR DOTS WITH (CROSS|DOT)|LETTER (ALEPH|BETH|DALETH|GIMEL|HE|HETH|KAPH|LAMEDH|
MEM-QOPH|NUN|PE|SADHE|SAMEKH|SHIN|TAW|WAW-AYIN-RESH|YODH|ZAYIN)|NUMBER (FOUR|ONE( HUNDRED|)|TEN|
THREE|TWENTY|TWO)|(SECTION|TURNED SECTION) MARK)|(PU|RESTRICTED LEFT ENTRY-)(1|2)|
PUBLIC ADDRESS LOUDSPEAKER|PURSE|PUSHPIN|QUADRANT (LOWER (LEFT|RIGHT)|
UPPER (LEFT( AND (LOWER (LEFT AND LOWER RIGHT|RIGHT)|UPPER RIGHT AND LOWER (LEFT|RIGHT))|)|
RIGHT( AND LOWER LEFT( AND LOWER RIGHT|)|)))|QUADRUPLE (INTEGRAL OPERATOR|PRIME)|
QUATERNION INTEGRAL OPERATOR|QUESTION (EXCLAMATION MARK|MARK)|QUINCUNX|RACCOON|RACING (CAR|
MOTORCYCLE)|RADICAL SYMBOL BOTTOM|RADIO( BUTTON|)|RAILWAY (CAR|TRACK)|RAIN|RAINBOW|
RAISED (BACK OF HAND|COMMA|DOT|(DOTTED INTERPOLATION|INTERPOLATION) MARKER|FIST|
HAND( WITH (FINGERS SPLAYED|PART BETWEEN MIDDLE AND RING FINGERS)|)|(MC|MD|MR) SIGN|SQUARE)|RAM|
RAT|RATIO|RAZOR|RECEIPT|RECREATIONAL VEHICLE|RECYCLING( (SYMBOL( (FOR( (GENERIC MATERIALS|
TYPE(-((1~7) PLASTICS))))))))|RED (APPLE|GIFT ENVELOPE)|REGIONAL INDICATOR SYMBOL LETTER (A|B|C|D|
E|F|G|H|I|J|K|L|M|N|O|P|Q|R|S|T|U|V|W|X|Y|Z)|REJANG (CONSONANT SIGN (H|N|NG|R)|LETTER (A|BA|CA|DA|
GA|HA|JA|KA|LA|MA|MBA|NA|NDA|NGA|NGGA|NYA|NYJA|PA|RA|SA|TA|WA|YA)|SECTION MARK|VIRAMA|
VOWEL SIGN (AI|AU|E|EA|EU|I|O|U))|REMINDER RIBBON|RESPONSE|RESTROOM|RETURN (LEFT|RIGHT|SYMBOL)|
REVERSE (CHECKER BOARD|INDEX|LIGHT FOUR POINTED PINWHEEL STAR|LINE FEED|SOLIDUS( (OPERATOR|
PRECEDING SUBSET|WITH HORIZONTAL STROKE)|)|TILDE OPERATOR ABOVE (LEFTWARDS|RIGHTWARDS) ARROW)|
REVERSED (ANGLE( WITH UNDERBAR|)|COMMA|DOUBLE (PRIME( QUOTATION MARK|)|STROKE NOT SIGN)|EMPTY SET|
FORKED PARAGRAPHOS|HAND WITH MIDDLE FINGER EXTENDED|(NOT|PILCROW) SIGN|PRIME|QUESTION MARK|
RAISED HAND WITH FINGERS SPLAYED|RIGHT ANGLE|ROTATED FLORAL HEART BULLET|SANS-SERIF CAPITAL L|
SEMICOLON|THUMBS (DOWN|UP) SIGN|TILDE( EQUALS|)|TRIPLE PRIME|VICTORY HAND)|REVOLVING HEARTS|
RHINOCEROS|RI|RIBBON( ARROW ((DOWN|UP) (LEFT|RIGHT)|(LEFT|RIGHT) (DOWN|UP))|)|RICE (BALL|CRACKER)|
RIFLE|RIGHT( (AND (LOWER|UPPER) ONE EIGHTH BLOCK|(ANGER|SPEECH|THOUGHT) BUBBLE|
ANGLE( (BRACKET( WITH DOT|)|(DOTTED SUBSTITUTION|SUBSTITUTION) MARKER|VARIANT WITH SQUARE|
WITH (ARC|DOWNWARDS ZIGZAG ARROW))|)|(ARC GREATER-THAN|CORNER|DOTTED SUBSTITUTION|LOW PARAPHRASE|
RAISED OMISSION|SIDEWAYS U|SUBSTITUTION|TORTOISE SHELL|TRANSPOSITION) BRACKET|
ARROW WITH (CIRCLED PLUS|SMALL CIRCLE)|BLACK (LENTICULAR|TORTOISE SHELL) BRACKET|CEILING|
CURLY BRACKET( ((LOWER|UPPER) HOOK|MIDDLE PIECE)|)|DOUBLE (ANGLE BRACKET|ARROW WITH ROUNDED HEAD|
PARENTHESIS|QUOTATION MARK|WIGGLY FENCE)|FISH TAIL|(FIVE|SEVEN) EIGHTHS BLOCK|FLOOR|
HALF (BLACK (CIRCLE|STAR)|BLOCK|FOLDER|MEDIUM SHADE|RUNNING MAN)|HAND TELEPHONE RECEIVER|
(NORMAL FACTOR SEMIDIRECT|SEMIDIRECT) PRODUCT|ONE (EIGHTH|QUARTER) BLOCK|OPEN SQUARED DOT|
OUTER JOIN|PARENTHESIS( (EXTENSION|(LOWER|UPPER) HOOK)|)|S-SHAPED BAG DELIMITER|
SINGLE QUOTATION MARK|SPEAKER( WITH (ONE SOUND WAVE|THREE SOUND WAVES)|)|
SQUARE BRACKET( (EXTENSION|(LOWER|UPPER) CORNER|WITH (DOUBLE STROKE|QUILL|STROKE|TICK IN (BOTTOM|
TOP) CORNER|UNDERBAR))|)|TACK|THIRD WHITE RIGHT POINTING INDEX|THREE (EIGHTHS|QUARTERS) BLOCK|
TRIANGLE( ABOVE LEFT TRIANGLE|)|TRIANGULAR ONE QUARTER BLOCK|VERTICAL (BAR WITH QUILL|BOX LINE)|
WHITE ((CORNER|CURLY|LENTICULAR|SQUARE|TORTOISE SHELL) BRACKET|PARENTHESIS)|WIGGLY FENCE)|
-(FACING (ARMENIAN ETERNITY SIGN|FIST|SVASTI SIGN( WITH DOTS|))|HANDED INTERLACED PENTAGRAM|
POINTING ((ANGLE|CURVED ANGLE) BRACKET|DOUBLE ANGLE QUOTATION MARK|MAGNIFYING GLASS)|
(SHADED WHITE RIGHTWARDS|SIDE ARC CLOCKWISE) ARROW|TO-LEFT (EMBEDDING|ISOLATE|MARK|OVERRIDE)))|
RIGHTWARDS (ARROW( (ABOVE (ALMOST EQUAL TO|REVERSE (ALMOST EQUAL TO|TILDE OPERATOR)|
SHORT LEFTWARDS ARROW|TILDE OPERATOR)|AND UPPER AND LOWER ONE EIGHTH BLOCK|
FROM BAR( TO BLACK DIAMOND|)|OVER LEFTWARDS ARROW|THROUGH (GREATER-THAN|SUPERSET|X)|TO (BAR|
BLACK DIAMOND)|WITH (CORNER DOWNWARDS|DOTTED STEM|(DOUBLE VERTICAL|VERTICAL) STROKE|(EQUILATERAL|
LARGE TRIANGLE|MEDIUM TRIANGLE) ARROWHEAD|HOOK|LOOP|NOTCHED TAIL|PLUS BELOW|SMALL (EQUILATERAL|
TRIANGLE) ARROWHEAD|STROKE|TAIL( WITH (DOUBLE VERTICAL|VERTICAL) STROKE|)|TIP (DOWNWARDS|
UPWARDS)))|-TAIL|)|(BACK-TILTED SHADOWED WHITE|BOTTOM SHADED WHITE|COMPRESSED|DASHED|FINGER-POST|
FRONT-TILTED SHADOWED WHITE|LEFT-SHADED WHITE|OPEN-HEADED|QUADRUPLE|RIGHT-SHADED WHITE|SANS-SERIF|
SQUARED|SQUIGGLE|TOP SHADED WHITE|WAVE) ARROW|BLACK (ARROW|CIRCLED WHITE ARROW)|
DOUBLE (ARROW( (FROM BAR|WITH (STROKE|VERTICAL STROKE))|-TAIL|)|DASH ARROW)|HAND|
HARPOON (OVER LEFTWARDS HARPOON|WITH BARB (DOWN (ABOVE LEFTWARDS HARPOON WITH BARB DOWN|
BELOW LONG DASH|FROM BAR|TO BAR)|DOWNWARDS|UP (ABOVE (LEFTWARDS HARPOON WITH BARB UP|LONG DASH|
RIGHTWARDS HARPOON WITH BARB DOWN)|FROM BAR|TO BAR)|UPWARDS))|HEAVY (ARROW|COMPRESSED ARROW)|
PAIRED ARROWS|ROCKET|TRIANGLE( ARROWHEAD|-HEADED (ARROW( (OVER LEFTWARDS TRIANGLE-HEADED ARROW|
TO BAR|WITH ((BOLD|HEAVY|MEDIUM|NARROW|VERY HEAVY) SHAFT|DOUBLE (HORIZONTAL|VERTICAL) STROKE|
LONG TIP (DOWNWARDS|UPWARDS)))|)|DASHED ARROW|PAIRED ARROWS))|TRIPLE (ARROW|DASH ARROW)|
TWO( HEADED ARROW|-HEADED (ARROW (FROM BAR|WITH ((DOUBLE VERTICAL|VERTICAL) STROKE|
TAIL( WITH (DOUBLE VERTICAL|VERTICAL) STROKE|)|TRIANGLE ARROWHEADS))|TRIPLE DASH ARROW))|
WHITE ARROW( (FROM WALL|WITHIN TRIANGLE ARROWHEAD)|))|RING( (ABOVE|BUOY|EQUAL TO|IN EQUAL TO|
OPERATOR|POINT)|)|RINGED PLANET|RISING DIAGONAL CROSSING (FALLING DIAGONAL|SOUTH EAST ARROW)|RLE|
RLI|RLM|RLO|ROASTED SWEET POTATO|ROCK|ROCKET|ROLL OF PAPER|ROLLED-UP NEWSPAPER|ROLLER (COASTER|
SKATE)|ROLLING ON THE FLOOR LAUGHING|ROMAN ((AS|CENTURIAL|DENARIUS|DIMIDIA SEXTULA|DUPONDIUS|
QUINARIUS|SEMUNCIA|SESTERTIUS|SEXTANS|SEXTULA|SILIQUA|UNCIA) SIGN|NUMERAL (EIGHT|ELEVEN|
FIFTY( (EARLY FORM|THOUSAND)|)|FIVE( (HUNDRED|THOUSAND)|)|FOUR|NINE|ONE( (HUNDRED( THOUSAND|)|
THOUSAND( C D|))|)|REVERSED ONE HUNDRED|SEVEN|SIX( LATE FORM|)|TEN( THOUSAND|)|THREE|TWELVE|TWO))|
ROOSTER|ROSE|ROSETTE|ROTATED (CAPITAL Q|(FLORAL|HEAVY BLACK) HEART BULLET|
(LIGHT FOUR POINTED BLACK|WHITE FOUR POINTED) CUSP)|ROUND (PUSHPIN|TARGET)|ROUNDED SYMBOL FOR (CAI|
FU|LU|SHOU|SHUANGXI|XI)|ROWBOAT|RS|RULE-DELAYED|RUMI (DIGIT (EIGHT|FIVE|FOUR|NINE|ONE|SEVEN|SIX|
THREE|TWO)|FRACTION (ONE (HALF|QUARTER|THIRD)|TWO THIRDS)|NUMBER ((EIGHT|FIVE|FOUR|NINE|ONE|SEVEN|
SIX|THREE|TWO) HUNDRED|EIGHTY|FIFTY|FORTY|NINETY|SEVENTY|SIXTY|TEN|THIRTY|TWENTY))|RUNIC ((ARLAUG|
BELGTHOR|TVIMADUR) SYMBOL|(CROSS|MULTIPLE|SINGLE) PUNCTUATION|LETTER (AC A|AESC|ALGIZ EOLHX|
ANSUZ A|BERKANAN BEORC BJARKAN B|C|CALC|CEALC|CEN|CWEORTH|D|DAGAZ DAEG D|DOTTED-(L|N|P)|E|EAR|
EHWAZ EH E|ENG|ETH|FEHU FEOH FE F|FRANKS CASKET (AC|AESC|EH|IS|OS)|G|GAR|GEBO GYFU G|GER|HAEGL H|
HAGLAZ H|ICELANDIC-YR|ING|INGWAZ|IOR|ISAZ IS ISS I|IWAZ EOH|JERAN J|K|KAUN K|KAUNA|
LAUKAZ LAGU LOGR L|LONG-BRANCH-(AR AE|HAGALL H|MADR M|OSS O|YR)|MANNAZ MAN M|NAUDIZ NYD NAUD N|O|
OE|ON|OO|OPEN-P|OS O|OTHALAN ETHEL O|PERTHO PEORTH P|Q|RAIDO RAD REID R|SH|SHORT-TWIG-(AR A|
BJARKAN B|HAGALL H|MADR M|NAUD N|OSS O|SOL S|TYR T|YR)|SIGEL LONG-BRANCH-SOL S|SOWILO S|STAN|
THURISAZ THURS THORN|TIWAZ TIR TYR T|URUZ UR U|V|W|WUNJO WYNN W|X|Y|YR|Z))|RUNNER|
RUNNING SHIRT WITH SASH|RUSSIAN ASTROLOGICAL SYMBOL (BINOVILE|NOVILE|QUINTILE|SENTAGON|TREDECILE|
VIGINTILE)|S IN TRIANGLE|SAFETY (PIN|VEST)|SAGITTARIUS|SAILBOAT|SAKE BOTTLE AND CUP|SALT SHAKER|
SALTIRE|SAMARITAN (ABBREVIATION MARK|LETTER (ALAF|BAA|BIT|DALAT|FI|GAMAN|IN|IT|IY|KAAF|LABAT|MIM|
NUN|QUF|RISH|SHAN|SINGAAT|TAAF|TIT|TSAADIY|YUT|ZEN)|MARK (DAGESH|EPENTHETIC YUT|IN(-ALAF|)|NEQUDAA|
OCCLUSION)|MODIFIER LETTER (EPENTHETIC YUT|I|SHORT A)|PUNCTUATION (AFSAAQ|ANGED|ANNAAU|ARKAANU|
ATMAAU|BAU|MELODIC QITSA|NEQUDAA|QITSA|SHIYYAALAA|SOF MASHFAAT|TURU|ZAEF|ZIQAA)|VOWEL SIGN (A|AA|E|
I|LONG (A|AA|E|I|U)|O|OVERLONG (A|AA)|SHORT A|SUKUN|U))|SANDWICH|SANS-SERIF (HEAVY (DOUBLE (COMMA|
TURNED COMMA) QUOTATION MARK ORNAMENT|LOW DOUBLE COMMA QUOTATION MARK ORNAMENT)|
INTERROBANG ORNAMENT)|SARI|SATELLITE( ANTENNA|)|SATURN|SAURASHTRA (CONSONANT SIGN HAARU|DANDA|
DIGIT (EIGHT|FIVE|FOUR|NINE|ONE|SEVEN|SIX|THREE|TWO|ZERO)|DOUBLE DANDA|LETTER (A|AA|AI|AU|BA|BHA|
CA|CHA|DA|DDA|DDHA|DHA|E|EE|GA|GHA|HA|I|II|JA|JHA|KA|KHA|LA|LLA|MA|NA|NGA|NNA|NYA|O|OO|PA|PHA|RA|
SA|SHA|SSA|TA|THA|TTA|TTHA|U|UU|VA|VOCALIC (L|LL|R|RR)|YA)|SIGN (ANUSVARA|CANDRABINDU|VIRAMA|
VISARGA)|VOWEL SIGN (AA|AI|AU|E|EE|I|II|O|OO|U|UU|VOCALIC (L|LL|R|RR)))|SAUROPOD|SAXOPHONE|SCALES|
SCARF|SCHOOL( SATCHEL|)|SCI|SCOOTER|SCORPION|SCORPIUS|SCREEN|SCREWDRIVER|SCRIPT (CAPITAL (B|E|F|H|
I|L|M|P|R)|LIGATURE ET ORNAMENT|SMALL (E|G|L|O))|SCROLL|SCRUPLE|SEAL|SEAT|(SECOND|
THIRD) PLACE MEDAL|SECTOR|SEDNA|SEEDLING|SEGMENT|SELFIE|SEMICOLON|
SEMIDIRECT PRODUCT WITH BOTTOM CLOSED|SEMISEXTILE|SESAME DOT|SESQUIQUADRATE|SET (MINUS|
TRANSMIT STATE)|SEWING NEEDLE|SEXTILE|SGC|SHADOWED WHITE (CIRCLE|LATIN CROSS|STAR)|SHAMROCK|
SHARADA ((ABBREVIATION|CONTINUATION) SIGN|DANDA|DIGIT (EIGHT|FIVE|FOUR|NINE|ONE|SEVEN|SIX|THREE|
TWO|ZERO)|DOUBLE DANDA|EKAM|(EXTRA SHORT VOWEL|SANDHI|SUTRA) MARK|HEADSTROKE|LETTER (A|AA|AI|AU|BA|
BHA|CA|CHA|DA|DDA|DDHA|DHA|E|GA|GHA|HA|I|II|JA|JHA|KA|KHA|LA|LLA|MA|NA|NGA|NNA|NYA|O|PA|PHA|RA|SA|
SHA|SSA|TA|THA|TTA|TTHA|U|UU|VA|VOCALIC (L|LL|R|RR)|YA)|OM|SECTION MARK-(1|2)|SEPARATOR|
SIGN (ANUSVARA|AVAGRAHA|CANDRABINDU|INVERTED CANDRABINDU|JIHVAMULIYA|NUKTA|SIDDHAM|UPADHMANIYA|
VIRAMA|VISARGA)|VOWEL (MODIFIER MARK|SIGN (AA|AI|AU|E|I|II|O|PRISHTHAMATRA E|U|UU|VOCALIC (L|LL|R|
RR))))|SHARK|SHAVED ICE|SHAVIAN LETTER (ADO|AGE|AH|AIR|ARE|ARRAY|ASH|AWE|BIB|CHURCH|DEAD|EAR|EAT|
EGG|ERR|FEE|GAG|HA-HA|HUNG|IAN|ICE|IF|JUDGE|KICK|LOLL|MEASURE|MIME|NUN|OAK|OIL|ON|OOZE|OR|OUT|PEEP|
ROAR|SO|SURE|THEY|THIGH|TOT|UP|VOW|WOE|WOOL|YEA|YEW|ZOO)|SHEEP|SHIELD|SHIFT (IN|OUT)|SHINTO SHRINE|
SHIP|SHOCKED FACE WITH EXPLODING HEAD|SHOPPING (BAGS|TROLLEY)|SHORT ((BACKSLANTED SOUTH|
RIGHTWARDS ARROW ABOVE LEFTWARDS|SLANTED NORTH) ARROW|
BENT ARROW POINTING DOWNWARDS THEN NORTH EAST|DOWN TACK( WITH OVERBAR|)|LEFT TACK|
UP TACK( (ABOVE SHORT DOWN TACK|WITH UNDERBAR)|))|SHORTCAKE|SHORTHAND FORMAT ((CONTINUING|
LETTER) OVERLAP|(DOWN|UP) STEP)|SHORTS|SHOWER|SHRIMP|SHRUG|SHY|SI|SIDDHAM( (DANDA|DOUBLE DANDA|
END OF TEXT MARK|LETTER (A|AA|AI|ALTERNATE U|AU|BA|BHA|CA|CHA|DA|DDA|DDHA|DHA|E|GA|GHA|HA|I|II|JA|
JHA|KA|KHA|LA|MA|NA|NGA|NNA|NYA|O|PA|PHA|RA|SA|SHA|SSA|TA|THA|THREE-CIRCLE ALTERNATE I|TTA|TTHA|
TWO-CIRCLE ALTERNATE (I|II)|U|UU|VA|VOCALIC (L|LL|R|RR)|YA)|REPETITION( (MARK(-(1~3))))|
SECTION MARK (DOUBLE RING( WITH RAYS|)|WITH (CIRCLES AND ((FOUR|TWO) ENCLOSURES|RAYS)|(DOUBLE|
QUADRUPLE|SEPTUPLE|TRIPLE) CRESCENTS|RAYS AND DOTTED (CRESCENTS|(DOUBLE|TRIPLE) CRESCENTS)|
TRIDENT AND (DOTTED CRESCENTS|U-SHAPED ORNAMENTS)))|SEPARATOR (BAR|DOT)|SIGN (ANUSVARA|CANDRABINDU|
NUKTA|SIDDHAM|VIRAMA|VISARGA)|VOWEL SIGN (AA|AI|ALTERNATE (U|UU)|AU|E|I|II|O|U|UU|VOCALIC (R|
RR))))|SIDEWAYS (BLACK|WHITE) (DOWN|LEFT|RIGHT|UP) POINTING INDEX|SIGN OF THE HORNS|
SIGNWRITING( (AIR ((BLOW|SUCK) SMALL ROTATIONS|BLOWING OUT|SUCKING IN)|BREATH (EXHALE|INHALE)|
(BRUSH|GRASP|RUB|STRIKE|TOUCH) (BETWEEN|MULTIPLE|SINGLE)|CHEEKS (NEUTRAL|PUFFED|SUCKED)|COLON|
COMMA|DREAMY EYEBROWS ((DOWN|UP) NEUTRAL|NEUTRAL (DOWN|UP))|DYNAMIC (ARROWHEAD (LARGE|SMALL)|
EVERY OTHER TIME|FAST|GRADUAL|RELAXED|SIMULTANEOUS( ALTERNATING|)|SLOW|TENSE)|EARS|EXCITEMENT|
EYE (BLINK (MULTIPLE|SINGLE)|WINK)|EYEBROWS STRAIGHT (DOWN|NEUTRAL|UP)|EYEGAZE-(FLOORPLANE (CURVED|
STRAIGHT( (ALTERNATING|DOUBLE)|))|WALLPLANE (CIRCLING|CURVED|STRAIGHT( (ALTERNATING|DOUBLE)|)))|
EYELASHES (DOWN|FLUTTERING|UP)|EYES (CLOSED|HALF (CLOSED|OPEN)|OPEN|SQUEEZED|WIDE OPEN|
WIDENING MOVEMENT)|FACE DIRECTION POSITION NOSE (FORWARD TILTING|UP OR DOWN( TILTING|))|
FILL( (MODIFIER(-(2~6))))|FINGER|FLICK ((LARGE|SMALL) (MULTIPLE|SINGLE)|SEQUENTIAL)|(FLOORPLANE|
WALLPLANE) SHOULDER HIP MOVE|FOREHEAD (CONTACT|NEUTRAL|WRINKLED)|FULL STOP|HAIR|
HAND-(ANGLE( (INDEX( (MIDDLE (LITTLE|RING)|RING LITTLE( OUT|)|THUMB( (IN|OUT)|))|)|
LITTLE (INDEX( THUMB INDEX THUMB( OUT|)|)|UP)|MIDDLE RING LITTLE( (IN|OUT)|)|
RING (DOWN MIDDLE THUMB INDEX CROSS|LITTLE))|)|CIRCLE( (INDEX( (BENT|HINGE|MIDDLE( (CROSS LITTLE|
CROSSED|LITTLE|RING|THUMB)|)|RING LITTLE)|)|LITTLE (INDEX|UP)|MIDDLE (RING LITTLE( BENT|)|UP)|
RING LITTLE)|)|CLAW( (FOUR FINGERS CONJOINED|INDEX THUMB CURVE THUMB INSIDE|
MIDDLE RING LITTLE CONJOINED( SIDE|)|NO THUMB|THUMB (FORWARD|SIDE))|)|
CUP( (FIVE FINGERS SPREAD( OPEN|)|INDEX( (RING LITTLE|THUMB( OPEN|))|)|MIDDLE RING LITTLE|NO THUMB|
OPEN( (NO THUMB|THUMB (FORWARD|SIDE))|)|THUMB (FORWARD|SIDE))|)|CURLICUE( ((INDEX|
MIDDLE) RING LITTLE ON|OPEN)|)|FIST( (FOUR FINGERS CONJOINED BENT|HEEL|INDEX( (BENT( OVER MIDDLE|)|
CUPPED|HINGED( (LOW|MIDDLE UP( THUMB SIDE|))|)|MIDDLE( (BENT( THUMB STRAIGHT|)|
CONJOINED( (CUPPED( THUMB FORWARD|)|HINGED( THUMB SIDE|)|(INDEX|MIDDLE) BENT|THUMB (FORWARD|
SIDE( (BENT|CONJOINED)|)))|)|CROSS LITTLE|CROSSED( THUMB SIDE|)|HINGED( SPREAD THUMB SIDE|)|LITTLE|
RAISED KNUCKLES|RING( (BENT|CONJOINED)|)|STRAIGHT THUMB BENT|THUMB( (ANGLED( OUT|)|BENT|CIRCLED|
CONJOINED HINGED|CUPPED|HINGED|HOOKED)|)|UP SPREAD THUMB FORWARD)|)|RAISED KNUCKLE|RING LITTLE|
THUMB (ANGLED (IN|OUT) MIDDLE UP|CIRCLE|(CIRCLED|CUPPED) MIDDLE UP|CURLICUE|CURVE THUMB (INSIDE|
UNDER)|FORWARD INDEX (BENT|STRAIGHT)|HOOK|HOOKED MIDDLE (HINGED|UP)|SIDE( (BOTH BENT|INDEX (BENT|
HINGE)|THUMB (BENT|CONJOINED|DIAGONAL))|))|UP MIDDLE HINGED( THUMB (CONJOINED|SIDE)|))|)|
LITTLE (BENT|DOWN( (OTHERS CIRCLED|RIPPLE (CURVED|STRAIGHT))|)|INDEX( THUMB|)|RAISED KNUCKLE|THUMB|
TOUCHES THUMB|UP)|MIDDLE (BENT OVER INDEX|DOWN|LITTLE|RAISED KNUCKLE|RING LITTLE|
THUMB (ANGLED (INDEX UP|OUT INDEX (CROSSED|UP))|CIRCLED INDEX (HINGED|UP)|(CUPPED|HOOKED) INDEX UP|
LITTLE)|UP( THUMB SIDE|))|RING (DOWN|INDEX|LITTLE|MIDDLE( (CONJOINED|RAISED KNUCKLES)|)|
RAISED KNUCKLE|THUMB|UP)|THUMB( (BETWEEN (INDEX MIDDLE( STRAIGHT|)|MIDDLE RING|RING LITTLE)|
FORWARD|HEEL|OVER (FOUR RAISED KNUCKLES|TWO FINGERS)|SIDE (BENT|CONJOINED|DIAGONAL)|UNDER ((FOUR|
THREE|TWO) FINGERS|INDEX BENT|LITTLE UP))|))|)|FLAT( (BETWEEN PALM FACINGS|
FIVE FINGERS SPREAD( (BENT|FOUR BENT|HINGED( (NO THUMB|THUMB SIDE)|)|THUMB FORWARD)|)|
FOUR FINGERS( (BENT|CONJOINED( SPLIT|)|HINGED)|)|HEEL( (FIVE FINGERS SPREAD( (BENT|FOUR BENT)|)|
THUMB SIDE)|)|SPLIT (CENTRE( THUMB SIDE( BENT|)|)|INDEX THUMB SIDE|LITTLE)|THUMB (BENT|FORWARD|
SIDE))|)|HINGE( (FIVE FINGERS SPREAD OPEN|FOUR FINGERS CONJOINED|INDEX( (HINGED|MIDDLE (LITTLE|
RING( CONJOINED|))|RING LITTLE|THUMB( (LARGE|OPEN|SIDE|SMALL)|))|)|LITTLE( (INDEX( THUMB|)|THUMB)|
)|MIDDLE( RING LITTLE|)|NO THUMB|OPEN( (NO THUMB|THUMB (FORWARD|SIDE))|)|
RING( DOWN INDEX THUMB HOOK MIDDLE|)|SMALL|THUMB (BETWEEN MIDDLE RING|SIDE( TOUCHING INDEX|)))|)|
HOOK( (CURLICUE|INDEX RING LITTLE (IN|OUT|UNDER)|MIDDLE (RING LITTLE CONJOINED( (IN|OUT)|)|THUMB)|
RING THUMB)|)|OVAL( (FIVE FINGERS SPREAD|INDEX|LITTLE UP|NO THUMB|RING LITTLE|THUMB (FORWARD|
SIDE))|))|HEAD( (MOVEMENT( CIRCLE|-(FLOORPLANE (CURVE|STRAIGHT)|WALLPLANE (CURVE|STRAIGHT|TILT)))|
RIM)|)|LIMB( (COMBINATION|LENGTH(-(1~7))))|LIP (LOWER OVER UPPER|UPPER OVER LOWER)|
LIPS PRESSED TOGETHER|LOCATION( (DEPTH|HEAD NECK|HEIGHT|LIMBS DIGITS|TORSO|WIDTH)|-(FLOORPLANE|
WALLPLANE) SPACE)|MOUTH (CLOSED (CONTACT|FORWARD|NEUTRAL)|CORNERS|(FROWN|SMILE)( (OPEN|WRINKLED)|)|
KISS( (FORWARD|WRINKLED)|)|OPEN (CIRCLE|FORWARD|(OVAL|RECTANGLE)( (WRINKLED|YAWN)|)|WRINKLED)|
TENSE( (FORWARD|SUCKED)|)|WRINKLES (DOUBLE|SINGLE))|MOVEMENT-(DIAGONAL ((AWAY|TOWARDS) (LARGE|
LARGEST|MEDIUM|SMALL)|BETWEEN (AWAY|TOWARDS) (LARGE|LARGEST|MEDIUM|SMALL))|
FLOORPLANE (ARM CIRCLE HITTING WALL (LARGE|MEDIUM|SMALL) (DOUBLE|SINGLE)|BEND|(BOX|CORNER|PEAKS|
ZIGZAG) (LARGE|MEDIUM|SMALL)|CHECK|CROSS|CURVE (COMBINED|HITTING (CEILING|FLOOR) (LARGE|SMALL)|
LARGE|LARGEST|MEDIUM|SMALL)|DOUBLE (ALTERNATING( WRIST FLEX|)|STRAIGHT|WRIST FLEX)|
FINGER (CIRCLES HITTING WALL (DOUBLE|SINGLE)|CONTACT)|HUMP (HITTING (CEILING (LARGE|SMALL) (DOUBLE|
TRIPLE)|FLOOR ((LARGE|SMALL) DOUBLE|TRIPLE (LARGE|SMALL) TRIPLE))|SMALL)|JAW|
LOOP (HITTING (CEILING|FLOOR) (LARGE|SMALL) (DOUBLE|SINGLE)|SMALL)|SHAKING PARALLEL|
SINGLE (STRAIGHT (LARGE|LARGEST|MEDIUM|SMALL)|WRIST FLEX)|TRIPLE (ALTERNATING (MOVEMENT|
WRIST FLEX)|STRAIGHT MOVEMENT|WRIST FLEX)|WAVE (HITTING (CEILING|FLOOR) (LARGE|SMALL)|LARGE|SMALL|
SNAKE)|WRIST CIRCLE HITTING WALL (DOUBLE|SINGLE))|HINGE (DOWN SEQUENTIAL|SIDE TO SIDE SCISSORS|
UP (DOWN (ALTERNATING (LARGE|SMALL)|LARGE|SMALL)|SEQUENTIAL))|WALLPLANE (ARM CIRCLE (MEDIUM|
SMALL) (DOUBLE|SINGLE)|(BEND|BOX|CHECK|PEAKS|ZIGZAG) (LARGE|MEDIUM|SMALL)|CORNER (LARGE|MEDIUM|
ROTATION|SMALL)|CROSS|CURVE ((HALF-CIRCLE|QUARTER) (LARGE|LARGEST|MEDIUM|SMALL)|HITTING (CHEST|
FRONT WALL)|THEN STRAIGHT|THREE-QUARTER CIRCLE (MEDIUM|SMALL))|CURVED CROSS (MEDIUM|SMALL)|
DOUBLE (ALTERNATING( WRIST FLEX|)|STRAIGHT|WRIST FLEX)|FINGER (CIRCLES (DOUBLE|SINGLE)|CONTACT)|
HUMP (HITTING (CHEST|FRONT WALL)|LARGE|MEDIUM|SMALL)|JAW|LOOP (HITTING (CHEST|FRONT WALL)|LARGE|
MEDIUM|SMALL( DOUBLE|))|SHAKING|SINGLE (STRAIGHT (LARGE|LARGEST|MEDIUM|SMALL)|WRIST FLEX)|
TRIPLE (ALTERNATING( WRIST FLEX|)|STRAIGHT MOVEMENT|WRIST FLEX)|WAVE (CURVE (DOUBLE|TRIPLE) (LARGE|
MEDIUM|SMALL)|DIAGONAL PATH (LARGE|MEDIUM|SMALL)|HITTING (CHEST|FRONT WALL))|
WRIST CIRCLE FRONT (DOUBLE|SINGLE)))|NECK|NOSE (CONTACT|NEUTRAL|WIGGLES|WRINKLES)|PARENTHESIS|
ROTATION( (MODIFIER(-(2~16)))|-(FLOORPLANE (ALTERNATING|DOUBLE|SINGLE)( HITTING (CEILING|FLOOR)|)|
WALLPLANE (ALTERNATE|ALTERNATING HITTING (CHEST|FRONT WALL)|(DOUBLE|SINGLE)( HITTING (CHEST|
FRONT WALL)|))))|SEMICOLON|SHOULDER (HIP (POSITIONS|SPINE)|TILTING FROM WAIST)|
SQUEEZE (FLICK ALTERNATING|(LARGE|SMALL) (MULTIPLE|SINGLE)|SEQUENTIAL)|SURFACE (BETWEEN|SYMBOLS)|
TEETH( (BITE LIPS|MOVEMENT|ON (LIPS|TONGUE)( MOVEMENT|))|)|TENSE CHEEKS (HIGH|LOW|MIDDLE)|
TONGUE (CENTRE (INSIDE MOUTH|STICKING OUT)|INSIDE MOUTH RELAXED|LICKING LIPS|MOVES AGAINST CHEEK|
STICKING OUT FAR|TIP (BETWEEN LIPS|TOUCHING INSIDE MOUTH))|TORSO-(FLOORPLANE TWISTING|
WALLPLANE (CURVED BEND|STRAIGHT STRETCH))|TRAVEL-(FLOORPLANE (ROTATION-(FLOORPLANE|
WALLPLANE) (ALTERNATING|DOUBLE|SINGLE)|SHAKING)|WALLPLANE (ARM SPIRAL (DOUBLE|SINGLE|TRIPLE)|
ROTATION-(FLOORPLANE|WALLPLANE) (ALTERNATING|DOUBLE|SINGLE)|SHAKING))|
UPPER BODY TILTING FROM HIP JOINTS))|SILHOUETTE OF JAPAN|SIMILAR (ABOVE (GREATER|
LESS)-THAN ABOVE EQUALS SIGN|MINUS SIMILAR|OR (GREATER|LESS)-THAN)|SINE WAVE|SINGLE( ((CHARACTER|
GRAPHIC CHARACTER) INTRODUCER|(HIGH-REVERSED-9|LEFT-POINTING ANGLE|LOW-9|
RIGHT-POINTING ANGLE) QUOTATION MARK|SHIFT (THREE|TWO))|-SHIFT-(2|3))|
SINHALA (ARCHAIC (DIGIT (EIGHT|FIVE|FOUR|NINE|ONE|SEVEN|SIX|THREE|TWO)|NUMBER (EIGHTY|FIFTY|FORTY|
NINETY|ONE (HUNDRED|THOUSAND)|SEVENTY|SIXTY|TEN|THIRTY|TWENTY))|LETTER (AAYANNA|AEEYANNA|AEYANNA|
AIYANNA|(ALPAPRAANA|MAHAAPRAANA) (BAYANNA|CAYANNA|DAYANNA|DDAYANNA|GAYANNA|JAYANNA|KAYANNA|PAYANNA|
TAYANNA|TTAYANNA)|AMBA BAYANNA|AUYANNA|AYANNA|(DANTAJA|MUURDHAJA) (LAYANNA|NAYANNA|SAYANNA)|
EEYANNA|EYANNA|FAYANNA|HAYANNA|IIYANNA|ILUUYANNA|ILUYANNA|IRUUYANNA|IRUYANNA|IYANNA|
KANTAJA NAASIKYAYA|MAYANNA|OOYANNA|OYANNA|RAYANNA|SANYAKA (DAYANNA|DDAYANNA|GAYANNA|JAYANNA)|
TAALUJA (NAASIKYAYA|SANYOOGA NAAKSIKYAYA|SAYANNA)|UUYANNA|UYANNA|VAYANNA|YAYANNA)|
LITH DIGIT (EIGHT|FIVE|FOUR|NINE|ONE|SEVEN|SIX|THREE|TWO|ZERO)|PUNCTUATION KUNDDALIYA|
SIGN (AL-LAKUNA|ANUSVARAYA|CANDRABINDU|VISARGAYA)|VOWEL SIGN ((AELA|GAETTA)-PILLA|DIGA ((AEDA|
GAETTA|IS|PAA)-PILLA|GAYANUKITTA|KOMBUVA)|GAYANUKITTA|KETTI (AEDA|IS|PAA)-PILLA|KOMBU DEKA|
KOMBUVA( HAA ((AELA|DIGA AELA)-PILLA|GAYANUKITTA)|)))|SIX( (PETALLED BLACK AND WHITE FLORETTE|
POINTED ((BLACK|PINWHEEL) STAR|STAR WITH MIDDLE DOT))|-PER-EM SPACE)|(SIXTEEN POINTED|
SLAVONIC) ASTERISK|SKATEBOARD|SKIER|SKULL( AND CROSSBONES|)|SKUNK|SLANTED (EQUAL TO OR (GREATER|
LESS)-THAN( WITH DOT INSIDE|)|NORTH ARROW WITH (HOOKED HEAD|HORIZONTAL TAIL))|SLED|
SLEEPING (ACCOMMODATION|FACE|SYMBOL)|SLEUTH OR SPY|SLICE OF PIZZA|SLIGHTLY (FROWNING|SMILING) FACE|
SLOPE|SLOPING LARGE (AND|OR)|SLOTH|SMALL (AIRPLANE|AMPERSAND|ASTERISK|(BLUE|ORANGE) DIAMOND|COLON|
COMMA|COMMERCIAL AT|CONTAINS (AS MEMBER|WITH (OVERBAR|VERTICAL BAR AT END OF HORIZONTAL STROKE))|
(DOLLAR|EQUALS|GREATER-THAN|LESS-THAN|NUMBER|PERCENT|PLUS) SIGN|ELEMENT OF( WITH (OVERBAR|
VERTICAL BAR AT END OF HORIZONTAL STROKE)|)|EM DASH|(EXCLAMATION|QUESTION) MARK|FULL STOP|
HYPHEN-MINUS|IDEOGRAPHIC COMMA|(LEFT|RIGHT) ((CURLY|TORTOISE SHELL) BRACKET|PARENTHESIS)|
REVERSE SOLIDUS|ROMAN NUMERAL (EIGHT|ELEVEN|FIFTY|FIVE( HUNDRED|)|FOUR|NINE|ONE( (HUNDRED|
THOUSAND)|)|SEVEN|SIX|TEN|THREE|TWELVE|TWO)|SEMICOLON|TILDE|TWO DOTS OVER ONE DOT PUNCTUATION|
VEE WITH UNDERBAR)|SMILE|SMILING (CAT FACE WITH (HEART-SHAPED EYES|OPEN MOUTH)|FACE WITH (HALO|
HEART-SHAPED EYES|HORNS|OPEN MOUTH( AND (COLD SWEAT|(SMILING|TIGHTLY-CLOSED) EYES)|)|
SMILING EYES( AND (HAND COVERING MOUTH|THREE HEARTS)|)|SUNGLASSES|TEAR))|SNAIL|SNAKE|
SNOW CAPPED MOUNTAIN|SNOWBOARDER|SNOWFLAKE|SNOWMAN( WITHOUT SNOW|)|SO|SOCKS|SOFT (HYPHEN|ICE CREAM|
SHELL FLOPPY DISK)|SOFTBALL|SOGDIAN (COMBINING ((CURVE|DOT|HOOK|TWO DOTS) (ABOVE|BELOW)|(LONG HOOK|
RESH|STROKE) BELOW)|INDEPENDENT SHIN|LETTER (ALEPH|AYIN|BETH|FETH|GIMEL|HE|HETH|KAPH|LAMEDH|LESH|
MEM|NUN|PE|RESH-AYIN|SADHE|SAMEKH|SHIN|TAW|WAW|YODH|ZAYIN)|NUMBER (ONE( HUNDRED|)|TEN|TWENTY)|
PUNCTUATION ((CIRCLE|HALF CIRCLE) WITH DOT|TWO (CIRCLES WITH DOTS|VERTICAL BARS( WITH DOTS|))))|
SOH|SOLIDUS( WITH OVERBAR|)|SORA SOMPENG (DIGIT (EIGHT|FIVE|FOUR|NINE|ONE|SEVEN|SIX|THREE|TWO|
ZERO)|LETTER (AH|BAH|CAH|DAH|EEH|EH|GAH|HAH|IH|JAH|KAH|LAH|MAE|MAH|NAH|NGAH|NYAH|OH|PAH|RAH|SAH|
TAH|UH|VAH|YAH))|SOS|SOUND RECORDING COPYRIGHT|SOUTH (EAST (ARROW( ((AND SOUTH WEST|
CROSSING NORTH EAST) ARROW|TO CORNER|WITH HOOK)|)|(BLACK|DOUBLE|SANS-SERIF|WHITE) ARROW|
POINTING (BUD|LEAF|VINE LEAF)|TRIANGLE-HEADED ARROW( TO BAR|))|WEST (ARROW( (AND NORTH WEST ARROW|
WITH HOOK)|)|(BLACK|DOUBLE|SANS-SERIF|WHITE) ARROW|POINTING (BUD|LEAF|VINE LEAF)|
TRIANGLE-HEADED ARROW( TO BAR|)))|SOYOMBO (CLUSTER-INITIAL LETTER (LA|RA|SA|SHA)|
FINAL CONSONANT SIGN (-A|B|D|G|K|L|M|N|NG|R|S|SH)|GEMINATION MARK|
HEAD MARK WITH MOON AND SUN( AND (FLAME|TRIPLE FLAME)|)|LETTER (-A|A|BA|BHA|CA|CHA|DA|DDA|DDHA|DHA|
DZA|GA|GHA|HA|JA|JHA|KA|KHA|KSSA|LA|MA|NA|NGA|NNA|NYA|PA|PHA|RA|SA|SHA|SSA|TA|THA|TSA|TSHA|TTA|
TTHA|VA|YA|ZA|ZHA)|MARK (DOUBLE SHAD|PLUTA|SHAD|TSHEG)|SIGN (ANUSVARA|JIHVAMULIYA|UPADHMANIYA|
VISARGA)|SUBJOINER|TERMINAL MARK-(1|2)|VOWEL (LENGTH MARK|SIGN (AI|AU|E|I|O|OE|U|UE|VOCALIC (L|
R))))|SP|SPA|SPACE|SPAGHETTI|SPARKLE|SPARKLES|SPEAKER( WITH (CANCELLATION STROKE|ONE SOUND WAVE|
THREE SOUND WAVES)|)|(SPEECH|THOUGHT) BALLOON|SPEEDBOAT|SPHERICAL ANGLE( OPENING (LEFT|UP)|)|
SPIDER( WEB|)|SPIRAL (CALENDAR PAD|NOTE PAD|SHELL)|SPONGE|SPOOL OF THREAD|SPOON|SPORTS MEDAL|
SPOUTING WHALE|SQUARE ((A|V) OVER M|AARU|AM|ANPEA|APAATO|ARUHUA|AU|BAARERU|BAR|BEETA|BIRU|BORUTO|
BQ|BUSSYERU|C OVER KG|CAL|CAP|CC|CD|(CM|DM|MM)( (CUBED|SQUARED)|)|CO|CORPORATION|CUP|DA|DAASU|DB|
DESI|DJ|DL|DORU|EEKAA|ERA NAME (HEISEI|MEIZI|REIWA|SYOUWA|TAISYOU)|ERG|ESUKUUDO|EV|FM|FOOT|
FOUR CORNERS|GAL|GANMA|GARON|GB|GHZ|GIGA|GINII|GIRUDAA|GPA|GURAMU|GURAMUTON|GY|HA|HAITU|HEKUTAARU|
HERUTU|HG|HIRAGANA HOKA|HON|HOON|HOORU|HP|HPA|HUARADDO|HUIITO|HURAN|HZ|(IMAGE|
ORIGIN(AL)) OF( OR (EQUAL TO|NOT EQUAL TO)|)|IN|ININGU|INTI|IU|K OHM|KA|KAIRI|KARATTO|KARORII|KB|
KCAL|KEESU|KG|KHZ|KIRO|KIROGURAMU|KIROMEETORU|KIROWATTO|KK|KL|KM( (CAPITAL|CUBED|SQUARED)|)|KOOPO|
KORUNA|KPA|KT|KUROONE|KURUZEIRO|KV|KW|KYURII|(LEFT|RIGHT) OPEN BOX OPERATOR|LM|LN|LOG|LOZENGE|LX|
M (CUBED|OHM|OVER S( SQUARED|)|SQUARED)|MA|MAHHA|MAIKURO|MAIRU|MANSYON|MARUKU|MB( SMALL|)|MEETORU|
MEGA|MEGATON|MG|MHZ|MIKURON|MIL|MIRI|MIRIBAARU|ML|MOL|MPA|MS|MU (A|F|G|L|M|S|V|W)|(MV|MW)( MEGA|)|
NA|NANO|NF|NM|NOTTO|NS|NV|NW|ONSU|OOMU|OV|PA( AMPS|)|PAASENTO|PAATU|PC|PEEZI|PENIHI|PENSU|PESO|PF|
PH|PIASUTORU|PIKO|PIKURU|PM|POINTO|PONDO|POSITION INDICATOR|PPM|PR|PS|PV|PW|RAD( OVER S( SQUARED|)|
)|REMU|RENTOGEN|RIRA|RITTORU|ROOT|RUPII|RUUBURU|SAIKURU|SANTIIMU|SENTI|SENTO|SIRINGU|SR|SV|TARGET|
THZ|TON|UON|WATTO|WB|WITH ((BOTTOM|LEFT|RIGHT|TOP) HALF BLACK|CONTOURED OUTLINE|(DIAGONAL|
ORTHOGONAL) CROSSHATCH FILL|(HORIZONTAL|VERTICAL) FILL|LOWER (LEFT|RIGHT) DIAGONAL HALF BLACK|
UPPER (LEFT (DIAGONAL HALF BLACK|TO LOWER RIGHT FILL)|RIGHT (DIAGONAL HALF BLACK|
TO LOWER LEFT FILL)))|YAADO|YAARU|YUAN)|SQUARED (ASTERISK|CJK UNIFIED IDEOGRAPH-(5272|5408|5439|
5929|6253|6295|6307|6355|6599|6620|6708|6709|7121|7533|7981|4(E(00|09|2D|8C)|EA4)|5(B57|DE6|F8C)|
518D|521D|524D|53(CC|F3)|55B6|58F0|591A|6(E80|F14)|624B|65B0|7(A7A|D42)|751F|8(CA9|D70)|89E3|904A|
914D)|CL|COOL|DOT OPERATOR|EIGHT K|(FALLING|RISING) DIAGONAL SLASH|(FIVE|SEVEN) POINT ONE|
FOUR (DOT PUNCTUATION|K)|FREE|HC|HDR|HI-RES|HV|ID|KATAKANA (DE|KOKO|SA)|KEY|
LATIN (CAPITAL LETTER (A|B|C|D|E|F|G|H|I|J|K|L|M|N|O|P|Q|R|S|T|U|V|W|X|Y|Z)|SMALL LETTER D)|
LOGICAL (AND|OR)|LOSSLESS|MINUS|MV|NEW|NG|OK|ONE HUNDRED TWENTY P|PLUS|PPV|SALTIRE|SD|
SECOND SCREEN|SHV|SIXTY P|SMALL CIRCLE|SOS|SQUARE|SS|THREE D|TIMES|TWENTY-TWO POINT TWO|TWO K|UHD|
UP WITH EXCLAMATION MARK|VOD|VS|WC)|SQUID|SS(2|3)|SSA|ST|STADIUM|STAFF OF (AESCULAPIUS|HERMES)|
STAR (AND CRESCENT|EQUALS|OF DAVID|OPERATOR|WITH (LEFT|RIGHT) HALF BLACK)|START OF ((GUARDED|
PROTECTED|SELECTED) AREA|HEADING|STRING|TEXT)|STATION|STATUE OF LIBERTY|STEAMING BOWL|
STENOGRAPHIC FULL STOP|STETHOSCOPE|STICK FIGURE( (LEANING (LEFT|RIGHT)|WITH (ARMS RAISED|DRESS))|)|
STOCK CHART|STOPWATCH|STRAIGHT RULER|STRAIGHTNESS|STRAWBERRY|STRING TERMINATOR|STS|
STUDIO MICROPHONE|STUFFED FLATBREAD|STUPA|STX|SUB|SUBSCRIPT (EIGHT|(EQUALS|PLUS) SIGN|FIVE|FOUR|
(LEFT|RIGHT) PARENTHESIS|MINUS|NINE|ONE|SEVEN|SIX|THREE|TWO|ZERO)|SUBSET (ABOVE (RIGHTWARDS ARROW|
SUBSET|SUPERSET)|OF( (ABOVE ((ALMOST|NOT) EQUAL TO|EQUALS SIGN|TILDE OPERATOR)|
OR EQUAL TO( WITH DOT ABOVE|)|WITH NOT EQUAL TO)|)|WITH (DOT|(MULTIPLICATION|PLUS) SIGN BELOW))|
SUBSTITUTE|SUMMATION (BOTTOM|TOP|WITH INTEGRAL)|SUN( (BEHIND CLOUD|WITH FACE)|)|
SUNDANESE (AVAGRAHA|CONSONANT SIGN (PAMINGKAL|PANYAKRA|PANYIKU|PASANGAN (MA|WA))|DIGIT (EIGHT|FIVE|
FOUR|NINE|ONE|SEVEN|SIX|THREE|TWO|ZERO)|LETTER (A|AE|BA|BHA|CA|DA|E|EU|FA|FINAL (K|M)|GA|HA|I|JA|
KA|KHA|LA|LEU|MA|NA|NGA|NYA|O|PA|QA|RA|REU|SA|SYA|TA|U|VA|WA|XA|YA|ZA)|PUNCTUATION BINDU ((BA|DA|
KA|LEU) SATANGA|CAKRA|PANGLONG|PURNAMA|SURYA)|SIGN (PAMAAEH|PANGLAYAR|PANGWISAD|PANYECEK|VIRAMA)|
VOWEL SIGN (PAMEPET|PANAELAENG|PANEULEUNG|PANGHULU|PANOLONG|PANYUKU))|SUNFLOWER|
SUNRISE( OVER MOUNTAINS|)|SUNSET OVER BUILDINGS|SUPERHERO|SUPERSCRIPT (EIGHT|(EQUALS|PLUS) SIGN|
FIVE|FOUR|LATIN SMALL LETTER (I|N)|(LEFT|RIGHT) PARENTHESIS|MINUS|NINE|ONE|SEVEN|SIX|THREE|TWO|
ZERO)|SUPERSET (ABOVE (LEFTWARDS ARROW|SUBSET|SUPERSET)|BESIDE (AND JOINED BY DASH WITH SUBSET|
SUBSET)|OF( (ABOVE ((ALMOST|NOT) EQUAL TO|EQUALS SIGN|TILDE OPERATOR)|OR EQUAL TO( WITH DOT ABOVE|
)|WITH NOT EQUAL TO)|)|PRECEDING SOLIDUS|WITH (DOT|(MULTIPLICATION|PLUS) SIGN BELOW))|SUPERVILLAIN|
SURFER|SUSHI|SUSPENSION RAILWAY|SWAN|SWIMMER|SWUNG DASH|SYLOTI( (NAGRI( (LETTER (A|BHO|BO|CHO|CO|
DDHO|DDO|DHO|DO|E|GHO|GO|HO|I|JHO|JO|KHO|KO|LO|MO|NO|O|PHO|PO|RO|RRO|SO|THO|TO|TTHO|TTO|U)|
POETRY( (MARK(-(1~4))))|SIGN (ALTERNATE HASANTA|ANUSVARA|DVISVARA|HASANTA)|VOWEL SIGN (A|E|I|OO|
U)))))|SYMBOL FOR (ACKNOWLEDGE|BACKSPACE|BELL|CANCEL|CARRIAGE RETURN|DATA LINK ESCAPE|(DELETE|
SUBSTITUTE)( FORM TWO|)|DEVICE CONTROL (FOUR|ONE|THREE|TWO)|END OF (MEDIUM|TEXT|
TRANSMISSION( BLOCK|))|ENQUIRY|ESCAPE|(FILE|GROUP|RECORD|UNIT) SEPARATOR|(FORM|LINE) FEED|
(HORIZONTAL|VERTICAL) TABULATION|MARKS CHAPTER|NEGATIVE ACKNOWLEDGE|NEWLINE|NULL|SAMARITAN SOURCE|
SHIFT (IN|OUT)|SPACE|START OF (HEADING|TEXT)|SYNCHRONOUS IDLE|TYPE A ELECTRONICS)|SYMMETRY|SYN|
SYNAGOGUE|SYNCHRONOUS IDLE|SYRIAC (ABBREVIATION MARK|BARREKH|COLON SKEWED (LEFT|RIGHT)|CONTRACTION|
DOTTED ZLAMA (ANGULAR|HORIZONTAL)|END OF PARAGRAPH|(ESASA|OBLIQUE LINE|RBASA|THREE DOTS|
TWO VERTICAL DOTS) (ABOVE|BELOW)|FEMININE DOT|HARKLEAN (ASTERISCUS|METOBELUS|OBELUS)|HBASA( (ABOVE|
BELOW)|-ESASA DOTTED)|HORIZONTAL COLON|LETTER (ALAPH|BETH|DALATH|DOTLESS DALATH RISH|E|
FINAL SEMKATH|(GAMAL|TETH)( GARSHUNI|)|HE|HETH|KAPH|LAMADH|MALAYALAM (BHA|JA|LLA|LLLA|NGA|NNA|NNNA|
NYA|RA|SSA|TTA)|MIM|NUN|PE|PERSIAN (BHETH|DHALATH|GHAMAL)|QAPH|REVERSED PE|RISH|SADHE|SEMKATH|SHIN|
SOGDIAN (FE|KHAPH|ZHAIN)|SUPERSCRIPT ALAPH|TAW|WAW|YUDH( HE|)|ZAIN)|MUSIC|(PTHAHA|ZQAPHA) (ABOVE|
BELOW|DOTTED)|QUSHSHAYA|RUKKAKHA|RWAHA|SUBLINEAR (COLON( SKEWED (LEFT|RIGHT)|)|FULL STOP)|
SUPRALINEAR (COLON( SKEWED LEFT|)|FULL STOP))|SYRINGE|T-(REX|SHIRT)|TAB|TACO|TAG (AMPERSAND|
APOSTROPHE|ASTERISK|(CIRCUMFLEX|GRAVE) ACCENT|COLON|COMMA|COMMERCIAL AT|DIGIT (EIGHT|FIVE|FOUR|
NINE|ONE|SEVEN|SIX|THREE|TWO|ZERO)|(DOLLAR|EQUALS|GREATER-THAN|LESS-THAN|NUMBER|PERCENT|PLUS) SIGN|
(EXCLAMATION|QUESTION|QUOTATION) MARK|FULL STOP|HYPHEN-MINUS|LATIN (CAPITAL|SMALL) LETTER (A|B|C|D|
E|F|G|H|I|J|K|L|M|N|O|P|Q|R|S|T|U|V|W|X|Y|Z)|(LEFT|RIGHT) ((CURLY|SQUARE) BRACKET|PARENTHESIS)|
(LOW|VERTICAL) LINE|REVERSE SOLIDUS|SEMICOLON|SOLIDUS|SPACE|TILDE)|TAGALOG (LETTER (A|ARCHAIC RA|
BA|DA|GA|HA|I|KA|LA|MA|NA|NGA|PA|RA|SA|TA|U|WA|YA)|SIGN (PAMUDPOD|VIRAMA)|VOWEL SIGN (I|U))|
TAGBANWA (LETTER (A|BA|DA|GA|I|KA|LA|MA|NA|NGA|PA|SA|TA|U|WA|YA)|VOWEL SIGN (I|U))|
TAI( (LE( (LETTER( (A|AI|AUE|E|EE|EH|FA|HA|I|KA|KHA|LA|MA|NA|NGA|O|OO|PA|PHA|QA|SA|TA|THA|
TONE(-(2~6))|TSA|TSHA|U|UE|VA|XA|YA))))|THAM( (COMBINING CRYPTOGRAMMIC DOT|CONSONANT SIGN (BA|
FINAL NGA|HIGH RATHA OR LOW PA|LA TANG LAI|LOW PA|MA|MEDIAL (LA|RA)|SA)|(HORA|THAM) DIGIT (EIGHT|
FIVE|FOUR|NINE|ONE|SEVEN|SIX|THREE|TWO|ZERO)|LETTER (A|BA|DA|EE|GREAT SA|HIGH (CA|CHA|FA|HA|KA|KHA|
KXA|PA|PHA|RATHA|SA|SHA|SSA|TA|THA|YA)|I|II|LA|LAE|LLA|LOW (CA|CHA|FA|HA|KA|KHA|KXA|PA|PHA|RATHA|
SA|TA|THA|YA)|LUE|MA|NA|NGA|NYA|OO|RA|RANA|RATA|RUE|U|UU|WA)|SIGN( (CAANG|DOKMAI|HANG|HOY|KAAN|
KAANKUU|KEOW|KHUEN( (TONE(-(3~5)))|-LUE KARAN)|MAI (KANG( LAI|)|SAM|YAMOK)|RA HAAM|
REVERSED ROTATED RANA|SAKOT|SATKAAN|SATKAANKUU|SAWAN|TONE-(1|2)|WIANG|WIANGWAAK))|VOWEL SIGN (A|AA|
AE|AI|E|I|II|MAI SAT|O|OA (ABOVE|BELOW)|OO|OY|TALL AA|THAM AI|U|UE|UU|UUE)))|VIET (LETTER (HIGH|
LOW) (BO|CHO|CO|DO|FO|GO|HO|KHHO|KHO|KO|LO|MO|NGO|NO|NYO|O|PHO|PO|RO|SO|THO|TO|VO|YO)|MAI (KANG|
KHIT)|SYMBOL (HO HOI|KOI KOI|KON|NUENG|SAM)|TONE MAI (EK|NUENG|SONG|THO)|VOWEL (AA|AM|AN|AUE|AY|E|
I|IA|O|U|UA|UE|UEA))))|TAKRI (ABBREVIATION SIGN|DIGIT (EIGHT|FIVE|FOUR|NINE|ONE|SEVEN|SIX|THREE|
TWO|ZERO)|LETTER (A|AA|AI|ARCHAIC KHA|AU|BA|BHA|CA|CHA|DA|DDA|DDHA|DHA|E|GA|GHA|HA|I|II|JA|JHA|KA|
KHA|LA|MA|NA|NGA|NNA|NYA|O|PA|PHA|RA|RRA|SA|SHA|TA|THA|TTA|TTHA|U|UU|VA|YA)|SIGN (ANUSVARA|NUKTA|
VIRAMA|VISARGA)|VOWEL SIGN (AA|AI|AU|E|I|II|O|U|UU))|TALLY MARK (FIVE|ONE)|TAMALE|TAMIL ((AND ODD|
AS ABOVE|CREDIT|CURRENT|DAY|DEBIT|DRY CULTIVATION|IN POSSESSION|LAND|MONTH|RUPEE|SALT PAN|SPENT|
STARTING FROM|TOTAL|WET CULTIVATION|YEAR) SIGN|AU LENGTH MARK|DIGIT (EIGHT|FIVE|FOUR|NINE|ONE|
SEVEN|SIX|THREE|TWO|ZERO)|FRACTION (DOWNSCALING FACTOR KIIZH|ONE (EIGHTH|EIGHTIETH|FIFTH|FORTIETH|
(HALF|SIXTEENTH)-(1|2)|ONE-HUNDRED-AND-SIXTIETH|QUARTER|SIXTY-FOURTH|TENTH|THIRTY-SECOND|
THREE-HUNDRED-AND-TWENTIETH|TWENTIETH)|THREE (EIGHTIETHS|QUARTERS|SIXTEENTHS|SIXTY-FOURTHS|
TWENTIETHS))|LETTER (A|AA|AI|AU|CA|E|EE|HA|I|II|JA|KA|LA|LLA|LLLA|MA|NA|NGA|NNA|NNNA|NYA|O|OO|PA|
RA|RRA|SA|SHA|SSA|TA|TTA|U|UU|VA|YA)|NUMBER (ONE (HUNDRED|THOUSAND)|SIGN|TEN)|OM|
PUNCTUATION END OF TEXT|SIGN (AAZHAAKKU|ANUSVARA|CEVITU|KAACU|KURUNI|KUZHI|MUKKURUNI|MUTHALIYA|
MUUVUZHAKKU|NEL|PAARAM|PANAM|PATHAKKU|PON|UZHAKKU|VAKAIYARAA|VARAAKAN|VELI|VIRAMA|VISARGA)|
TRADITIONAL (CREDIT|NUMBER) SIGN|VOWEL SIGN (AA|AI|AU|E|EE|I|II|O|OO|U|UU))|TANGERINE|
TANGSA (DIGIT (EIGHT|FIVE|FOUR|NINE|ONE|SEVEN|SIX|THREE|TWO|ZERO)|LETTER (AC|AQ|AWC|AWQ|AWX|AWZ|AX|
AZ|BA|CA|CHA|DA|DHA|EC|EQ|EX|EZ|FA|FINAL NG|GA|GHA|HA|HTA|HTTA|IC|IQ|IX|IZ|KA|KHA|LA|LONG UEX|MA|
MC|MQ|MX|MZ|NA|NGA|NHA|NYA|OC|OQ|OX|OZ|PA|PHA|RA|SA|SHA|SHORT (AWX|UEZ)|TA|THA|TSA|UC|UEC|UEQ|UEX|
UEZ|UIC|UIQ|UIUC|UIUQ|UIUX|UIUZ|UIX|UIZ|UQ|UX|UZ|VC|VQ|VX|VZ|WA|XA|YA|ZA))|
TANGUT( (COMPONENT(-(001~768))|ITERATION MARK))|TAPE (CARTRIDGE|DRIVE)|TAURUS|TAXI|
TEACUP WITHOUT HANDLE|TEAPOT|TEAR-OFF CALENDAR|TEARDROP-(BARBED RIGHTWARDS ARROW|SPOKED ASTERISK)|
TEDDY BEAR|TELEPHONE (LOCATION SIGN|ON TOP OF MODEM|RECEIVER( WITH PAGE|)|RECORDER|SIGN)|TELESCOPE|
TELEVISION|TELUGU ((AI LENGTH|LENGTH) MARK|DIGIT (EIGHT|FIVE|FOUR|NINE|ONE|SEVEN|SIX|THREE|TWO|
ZERO)|FRACTION DIGIT ((ONE|THREE|TWO) FOR (EVEN|ODD) POWERS OF FOUR|ZERO FOR ODD POWERS OF FOUR)|
LETTER (A|AA|AI|AU|BA|BHA|CA|CHA|DA|DDA|DDHA|DHA|DZA|E|EE|GA|GHA|HA|I|II|JA|JHA|KA|KHA|LA|LLA|LLLA|
MA|NA|NAKAARA POLLU|NGA|NNA|NYA|O|OO|PA|PHA|RA|RRA|RRRA|SA|SHA|SSA|TA|THA|TSA|TTA|TTHA|U|UU|VA|
VOCALIC (L|LL|R|RR)|YA)|SIGN (ANUSVARA|AVAGRAHA|CANDRABINDU|COMBINING (ANUSVARA|CANDRABINDU) ABOVE|
NUKTA|SIDDHAM|TUUMU|VIRAMA|VISARGA)|VOWEL SIGN (AA|AI|AU|E|EE|I|II|O|OO|U|UU|VOCALIC (L|LL|R|RR)))|
TENT|TEST TUBE|TETRAGRAM FOR (ACCUMULATION|ADVANCE|AGGRAVATION|ASCENT|BARRIER|BOLD RESOLUTION|
BRANCHING OUT|CENTRE|CHANGE|CLOSED MOUTH|CLOSENESS|CLOSURE|COMPLETION|COMPLIANCE|CONSTANCY|CONTACT|
CONTENTION|CONTRARIETY|DARKENING|DECISIVENESS|DEFECTIVENESS OR DISTORTION|DEPARTURE|DIFFICULTIES|
DIMINISHMENT|DIMMING|DIVERGENCE|DOUBT|DUTIES|EASE|EMBELLISHMENT|ENCOUNTERS|ENDEAVOUR|ENLARGEMENT|
ETERNITY|EXHAUSTION|FAILURE|FLIGHT|FOLLOWING|FOSTERING|FULL CIRCLE|FULLNESS|GATHERING( IN|)|
GOING TO MEET|GREATNESS|GUARDEDNESS|HARDNESS|HOLDING BACK|INCREASE|INNER|JOY|KEEPING SMALL|KINSHIP|
LABOURING|LAW OR MODEL|LEGION|MASSING|MEASURE|MIRED|ON THE VERGE|OPPOSITION|PACKING|PATTERN|
PENETRATION|PURITY|REACH|RELEASE|RESIDENCE|RESISTANCE|RESPONSE|RITUAL|SEVERANCE|SINKING|STOPPAGE|
STOVE|STRENGTH|UNITY|VASTNESS OR WASTING|WAITING|WATCH|YOUTHFULNESS)|THAANA (AABAAFILI|ABAFILI|
EBEFILI|EEBEEFILI|EYBEYFILI|IBIFILI|LETTER (AINU|ALIFU|BAA|CHAVIYANI|DAADHU|DAVIYANI|DHAALU|FAAFU|
GAAFU|GHAINU|GNAVIYANI|HAA|HHAA|JAVIYANI|KAAFU|KHAA|LAAMU|LHAVIYANI|MEEMU|NAA|NOONU|PAVIYANI|QAAFU|
RAA|SAADHU|SEENU|SHAVIYANI|SHEENU|TAVIYANI|THAA|THAALU|TO|TTAA|VAAVU|WAAVU|YAA|ZAA|ZAVIYANI|ZO)|
OABOAFILI|OBOFILI|OOBOOFILI|SUKUN|UBUFILI)|THAI (CHARACTER (ANGKHANKHU|BO BAIMAI|CHO (CHAN|CHANG|
CHING|CHOE)|DO (CHADA|DEK)|FO (FA|FAN)|FONGMAN|HO (HIP|NOKHUK)|KHO (KHAI|KHON|KHUAT|KHWAI|RAKHANG)|
KHOMUT|KO KAI|LAKKHANGYAO|LO (CHULA|LING)|LU|MAI (CHATTAWA|EK|HAN-AKAT|THO|TRI)|MAITAIKHU|MAIYAMOK|
MO MA|NGO NGU|NIKHAHIT|NO (NEN|NU)|O ANG|PAIYANNOI|PHINTHU|PHO (PHAN|PHUNG|SAMPHAO)|PO PLA|RO RUA|
RU|SARA (A|AA|AE|AI (MAIMALAI|MAIMUAN)|AM|E|I|II|O|U|UE|UEE|UU)|SO (RUSI|SALA|SO|SUA)|THANTHAKHAT|
THO (NANGMONTHO|PHUTHAO|THAHAN|THAN|THONG|THUNG)|TO (PATAK|TAO)|WO WAEN|YAMAKKAN|YO (YAK|YING))|
CURRENCY SYMBOL BAHT|DIGIT (EIGHT|FIVE|FOUR|NINE|ONE|SEVEN|SIX|THREE|TWO|ZERO))|
THERE (DOES NOT EXIST|EXISTS)|THEREFORE|THERMODYNAMIC|THERMOMETER|THIN (GREEK CROSS|SALTIRE|SPACE)|
THONG SANDAL|THREE( (BUTTON MOUSE|CONSECUTIVE EQUALS SIGNS|DIMENSIONAL ANGLE|DOT PUNCTUATION|
(LEFTWARDS|RIGHTWARDS) ARROWS|LINES CONVERGING (LEFT|RIGHT)|NETWORKED COMPUTERS|POINTED BLACK STAR|
RAYS (ABOVE|BELOW|LEFT|RIGHT)|SPEECH BUBBLES)|-(D ((BOTTOM-LIGHTED RIGHTWARDS|
LEFT-LIGHTED DOWNWARDS EQUILATERAL|RIGHT-LIGHTED UPWARDS EQUILATERAL) ARROWHEAD|
TOP-LIGHTED (LEFTWARDS EQUILATERAL ARROWHEAD|RIGHTWARDS (ARROWHEAD|EQUILATERAL ARROWHEAD)))|
EM DASH|PER-EM SPACE))|THUMBS (DOWN|UP) SIGN|THUNDER CLOUD AND RAIN|THUNDERSTORM|
TIBETAN (ASTROLOGICAL SIGN (-KHYUD PA|SDONG TSHUGS|SGRA GCAN -CHAR RTAGS)|
CANTILLATION SIGN (CANG TE-U|(HEAVY|LIGHT) BEAT|SBUB -CHAL)|DIGIT (EIGHT|FIVE|FOUR|HALF (EIGHT|
FIVE|FOUR|NINE|ONE|SEVEN|SIX|THREE|TWO|ZERO)|NINE|ONE|SEVEN|SIX|THREE|TWO|ZERO)|
KU RU KHA( BZHI MIG CAN|)|LETTER (-A|A|BA|BHA|CA|CHA|DA|DDA|DDHA|DHA|DZA|DZHA|FIXED-FORM RA|GA|GHA|
HA|JA|KA|KHA|KKA|KSSA|LA|MA|NA|NGA|NNA|NYA|PA|PHA|RA|RRA|SA|SHA|SSA|TA|THA|TSA|TSHA|TTA|TTHA|WA|YA|
ZA|ZHA)|LOGOTYPE SIGN (CHAD|LHAG) RTAGS|MARK ((ANG KHANG|GUG RTAGS) (GYAS|GYON)|
BKA- SHOG (GI MGO RGYAN|YIG MGO)|(BSDUS|LEADING MCHAN|TRAILING MCHAN) RTAGS|(BSKA- SHOG|
MNYAM YIG) GI MGO RGYAN|BSKUR YIG MGO|CARET (-DZUD RTAGS (BZHI MIG CAN|ME LONG CAN)|
YIG MGO PHUR SHAD MA)|CHE MGO|CLOSING (BRDA RNYING YIG|YIG) MGO SGAB MA|DELIMITER TSHEG BSTAR|
GTER (TSHEG|YIG MGO (-UM (GTER TSHEG MA|RNAM BCAD MA)|TRUNCATED A))|HALANTA|
INITIAL (BRDA RNYING YIG|YIG) MGO MDUN MA|INTERSYLLABIC TSHEG|NGAS BZUNG (NYI ZLA|SGOR RTAGS)|
NYIS (SHAD|TSHEG( SHAD|))|PALUTA|(RGYA GRAM|RIN CHEN SPUNGS|SBRUL|TSHEG) SHAD|SHAD|TSA -PHRU|
YIG MGO TSHEG SHAD MA)|SIGN (GRU (CAN|MED) RGYINGS|(INVERTED MCHU|LCE TSA|MCHU) CAN|(LCI|
YANG) RTAGS|(MAR|YAR) TSHES|NYI ZLA NAA DA|RDEL (DKAR (GCIG|GNYIS|GSUM|RDEL NAG)|NAG (GCIG|GNYIS|
GSUM|RDEL DKAR))|RJES SU NGA RO|RNAM BCAD|SNA LDAN)|SUBJOINED (LETTER (-A|A|BA|BHA|CA|CHA|DA|DDA|
DDHA|DHA|DZA|DZHA|FIXED-FORM (RA|WA|YA)|GA|GHA|HA|JA|KA|KHA|KSSA|LA|MA|NA|NGA|NNA|NYA|PA|PHA|RA|SA|
SHA|SSA|TA|THA|TSA|TSHA|TTA|TTHA|WA|YA|ZA|ZHA)|SIGN (INVERTED MCHU|LCE TSA|MCHU) CAN)|SYLLABLE OM|
SYMBOL (DRIL BU|NOR BU( (BZHI|GSUM|NYIS) -KHYIL|)|PADMA GDAN|PHUR PA|RDO RJE( RGYA GRAM|))|
VOWEL SIGN (AA|E|EE|I|II|O|OO|REVERSED (I|II)|U|UU|VOCALIC (L|LL|R|RR)))|TICKET|
TIFINAGH (CONSONANT JOINER|LETTER (AHAGGAR YAZH|AYER YAGH|BERBER ACADEMY (YAH|YAJ)|TAWELLEMET YAZ|
TUAREG (YAGH|YAGN|YAH|YAK|YAKH|YANG|YAQ|YAZH)|YA|YAA|YAB|YABH|YACH|YAD|YADD|YADDH|YADH|YAF|YAG|
YAGH|YAGHH|YAH|YAHH|YAJ|YAK|YAKH|YAKHH|YAL|YAM|YAN|YAP|YAQ|YAR|YARR|YAS|YASH|YASS|YAT|YATH|YATT|
YAV|YAW|YAY|YAZ|YAZH|YAZZ|YE|YEY|YI|YO|YU)|(MODIFIER LETTER LABIALIZATION|SEPARATOR) MARK)|
TIGHT TRIFOLIATE SNOWFLAKE|TILDE( (OPERATOR( (ABOVE (LEFTWARDS|RIGHTWARDS) ARROW|WITH (DOT ABOVE|
RISING DOTS))|)|WITH (DOT (ABOVE|BELOW)|RING ABOVE))|)|TIMES WITH (LEFT|RIGHT) HALF BLACK|
TINY( TWO DOTS OVER ONE DOT PUNCTUATION|)|TIRHUTA (ABBREVIATION SIGN|ANJI|DIGIT (EIGHT|FIVE|FOUR|
NINE|ONE|SEVEN|SIX|THREE|TWO|ZERO)|GVANG|LETTER (A|AA|AI|AU|BA|BHA|CA|CHA|DA|DDA|DDHA|DHA|E|GA|GHA|
HA|I|II|JA|JHA|KA|KHA|LA|MA|NA|NGA|NNA|NYA|O|PA|PHA|RA|SA|SHA|SSA|TA|THA|TTA|TTHA|U|UU|VA|
VOCALIC (L|LL|R|RR)|YA)|OM|SIGN (ANUSVARA|AVAGRAHA|CANDRABINDU|NUKTA|VIRAMA|VISARGA)|
VOWEL SIGN (AA|AI|AU|E|I|II|O|SHORT (E|O)|U|UU|VOCALIC (L|LL|R|RR)))|TIRONIAN SIGN (CAPITAL ET|ET)|
TOILET|TOKYO TOWER|TOMATO|TONGUE|TOOLBOX|TOOTH|TOOTHBRUSH|TOP (ARC (ANTICLOCKWISE ARROW( WITH PLUS|
)|CLOCKWISE ARROW WITH MINUS)|(CURLY|SQUARE|TORTOISE SHELL) BRACKET|HALF (BLACK CIRCLE|INTEGRAL|
(LEFT|RIGHT) PARENTHESIS|SECTION SIGN)|HAT|(LEFT|RIGHT) (CORNER|CROP|HALF BRACKET)|PARENTHESIS|
WITH UPWARDS ARROW ABOVE)|TORTOISE SHELL BRACKETED (CJK UNIFIED IDEOGRAPH-(6253|6557|4E(09|8C)|
5B89|52DD|672C|70B9|76D7)|LATIN CAPITAL LETTER S)|TOTAL RUNOUT|TOTO (LETTER (A|AE|BA|BREATHY (AE|E|
EO|I|IU)|CHA|DA|E|EO|GA|HA|I|IU|JA|KA|LA|MA|NA|NGA|O|PA|RA|SA|TA|U|WA|YA)|SIGN RISING TONE)|
TRACKBALL|TRACTOR|TRAIN|TRAM( CAR|)|TRANSPLUTO|TRIANGLE( WITH (DOT ABOVE|ROUNDED CORNERS|
SERIFS AT BOTTOM|UNDERBAR)|-HEADED RIGHTWARDS ARROW)|TRIANGULAR (BULLET|FLAG ON POST|RULER)|
TRICOLON|TRIDENT EMBLEM|TRIGRAM FOR (EARTH|FIRE|HEAVEN|LAKE|MOUNTAIN|THUNDER|WATER|WIND)|
TRIPLE (COLON OPERATOR|DAGGER|HORIZONTAL BAR WITH (DOUBLE|TRIPLE) VERTICAL STROKE|INTEGRAL|
NESTED (GREATER|LESS)-THAN|PLUS|PRIME|SOLIDUS BINARY RELATION|TILDE|VERTICAL BAR (BINARY RELATION|
DELIMITER|RIGHT TURNSTILE|WITH HORIZONTAL STROKE))|TROLL|TROLLEYBUS|TROPHY|TROPICAL (DRINK|FISH)|
TRUE( LIGHT MOON ARTA|)|TRUMPET|TULIP|TURKEY|TURNED (AMPERSAND|ANGLE|BLACK (PENTAGON|SHOGI PIECE)|
CAPITAL F|COMMA|DAGGER|DIGIT (THREE|TWO)|GREEK SMALL LETTER IOTA|(NORTH|SOUTH) (EAST|
WEST) POINTING LEAF|(NOT|OK HAND) SIGN|SANS-SERIF CAPITAL (G|L|Y)|SEMICOLON|SMALL F|
WHITE SHOGI PIECE)|TURTLE|TWISTED RIGHTWARDS ARROWS|TWO( (ASTERISKS ALIGNED VERTICALLY|
BUTTON MOUSE|CONSECUTIVE EQUALS SIGNS|DOT (LEADER|PUNCTUATION)|DOTS OVER ONE DOT PUNCTUATION|
HEARTS|INTERSECTING LOGICAL (AND|OR)|JOINED SQUARES|LOGICAL (AND|OR) OPERATOR|(MEN|
WOMEN) HOLDING HANDS|SPEECH BUBBLES)|-EM DASH)|UGARITIC (LETTER (AIN|ALPA|BETA|DELTA|DHAL|GAMLA|
GHAIN|HO|HOTA|I|KAF|KHA|LAMDA|MEM|NUN|PU|QOPA|RASHA|SADE|SAMKA|SHIN|SSU|TET|THANNA|TO|U|WO|YOD|
ZETA|ZU)|WORD DIVIDER)|UMBRELLA( (ON GROUND|WITH RAIN DROPS)|)|UNDERTIE|
UNION( (ABOVE (BAR ABOVE INTERSECTION|INTERSECTION)|BESIDE AND JOINED WITH UNION|WITH (LOGICAL OR|
MINUS SIGN|OVERBAR))|)|UP( (ARROW THROUGH CIRCLE|ARROWHEAD( (BETWEEN TWO HORIZONTAL BARS|
IN A RECTANGLE BOX)|)|BARB (LEFT|RIGHT) DOWN BARB (LEFT|RIGHT) HARPOON|DOWN (ARROW( WITH BASE|)|
(BLACK|DOUBLE|SANS-SERIF|TRIANGLE-HEADED|WHITE) ARROW)|FISH TAIL|RIGHT DIAGONAL ELLIPSIS|
TACK( WITH CIRCLE ABOVE|))|-POINTING (AIRPLANE|MILITARY AIRPLANE|RED TRIANGLE|SMALL (AIRPLANE|
RED TRIANGLE)|TRIANGLE WITH (LEFT|RIGHT) HALF BLACK))|UPPER (AND ((LEFT|
RIGHT) AND LOWER TRIANGULAR THREE QUARTERS BLOCK|LOWER (ONE EIGHTH|TRIANGULAR HALF) BLOCK)|
BLADE SCISSORS|(FIVE|SEVEN) EIGHTHS BLOCK|HALF (BLOCK( AND LOWER HALF INVERSE MEDIUM SHADE|)|
CIRCLE|INVERSE (MEDIUM SHADE AND LOWER HALF BLOCK|WHITE CIRCLE)|MEDIUM SHADE)|
LEFT (BLOCK DIAGONAL (LOWER (CENTRE TO (LOWER MIDDLE RIGHT|UPPER (MIDDLE RIGHT|RIGHT))|
LEFT TO (LOWER MIDDLE RIGHT|UPPER (CENTRE|MIDDLE RIGHT))|MIDDLE LEFT TO UPPER (CENTRE|MIDDLE RIGHT|
RIGHT))|UPPER MIDDLE LEFT TO UPPER (CENTRE|RIGHT))|CORNER WITH DOT|
OR LOWER RIGHT CURLY BRACKET SECTION|QUADRANT CIRCULAR ARC|TO LOWER RIGHT FILL|TRIANGLE|
TRIANGULAR MEDIUM SHADE)|ONE (EIGHTH|QUARTER) BLOCK|
RIGHT (BLOCK DIAGONAL (LOWER MIDDLE LEFT TO LOWER (CENTRE|RIGHT)|
UPPER (CENTRE TO (LOWER (MIDDLE RIGHT|RIGHT)|UPPER MIDDLE RIGHT)|LEFT TO (LOWER (CENTRE|
MIDDLE RIGHT)|UPPER MIDDLE RIGHT)|MIDDLE LEFT TO LOWER (CENTRE|MIDDLE RIGHT|RIGHT)))|
DROP-SHADOWED WHITE SQUARE|OR LOWER LEFT CURLY BRACKET SECTION|PENCIL|QUADRANT CIRCULAR ARC|
SHADOWED WHITE (CIRCLE|SQUARE)|TO LOWER LEFT FILL|TRIANGLE|TRIANGULAR MEDIUM SHADE)|THREE (EIGHTHS|
QUARTERS) BLOCK|TRIANGULAR ONE QUARTER BLOCK)|UPWARDS (ANCORA|ARROW( (AND RIGHT ONE EIGHTH BLOCK|
FROM BAR|LEFTWARDS OF DOWNWARDS ARROW|TO BAR|WITH ((DOUBLE|HORIZONTAL) STROKE|(EQUILATERAL|
LARGE TRIANGLE|MEDIUM TRIANGLE) ARROWHEAD|NOTCHED TAIL|SMALL (EQUILATERAL|TRIANGLE) ARROWHEAD|
TIP (LEFTWARDS|RIGHTWARDS)))|)|BLACK (ARROW|CIRCLED WHITE ARROW)|(COMPRESSED|DASHED|DOUBLE|
FINGER-POST|QUADRUPLE|SANS-SERIF|SQUARED|TRIPLE) ARROW|HARPOON WITH BARB (LEFT (BESIDE (DOWNWARDS|
UPWARDS) HARPOON WITH BARB RIGHT|FROM BAR|TO BAR)|LEFTWARDS|RIGHT (FROM BAR|TO BAR)|RIGHTWARDS)|
HEAVY (ARROW|COMPRESSED ARROW)|PAIRED ARROWS|ROCKET|TRIANGLE( ARROWHEAD|
-HEADED (ARROW( (LEFTWARDS OF DOWNWARDS TRIANGLE-HEADED ARROW|TO BAR|WITH ((BOLD|HEAVY|MEDIUM|
NARROW|VERY HEAVY) SHAFT|DOUBLE HORIZONTAL STROKE|LONG TIP (LEFTWARDS|RIGHTWARDS)))|)|DASHED ARROW|
PAIRED ARROWS))|TWO( HEADED ARROW|-HEADED ARROW (FROM SMALL CIRCLE|WITH TRIANGLE ARROWHEADS))|
WHITE (ARROW( (FROM BAR( WITH HORIZONTAL BAR|)|ON PEDESTAL( WITH (HORIZONTAL BAR|VERTICAL BAR)|)|
WITHIN TRIANGLE ARROWHEAD)|)|DOUBLE ARROW( ON PEDESTAL|)))|URANUS|US|VAI (COMMA|DIGIT (EIGHT|FIVE|
FOUR|NINE|ONE|SEVEN|SIX|THREE|TWO|ZERO)|FULL STOP|QUESTION MARK|SYLLABLE (A|AN|BA|BE|BEE|BHA|BHE|
BHEE|BHI|BHO|BHOO|BHU|BI|BO|BOO|BU|CA|CE|CEE|CI|CO|COO|CU|DA|DE|DEE|DHA|DHE|DHEE|DHHA|DHHE|DHHEE|
DHHI|DHHO|DHHOO|DHHU|DHI|DHO|DHOO|DHU|DI|DO|DOO|DU|E|EE|EEN|EN|FA|FE|FEE|FI|FO|FOO|FU|GA|GBA|GBE|
GBEE|GBEN|GBI|GBO|GBON|GBOO|GBU|GE|GEE|GEN|GI|GO|GOO|GU|HA|HAN|HE|HEE|HEN|HI|HIN|HO|HON|HOO|HU|HUN|
I|IN|JA|JE|JEE|JI|JO|JOO|JU|KA|KAN|KE|KEE|KI|KO|KOO|KPA|KPAN|KPE|KPEE|KPEN|KPI|KPO|KPOO|KPU|KU|LA|
LE|LEE|LENGTHENER|LI|LO|LOO|LU|MA|MBA|MBE|MBEE|MBI|MBO|MBOO|MBU|ME|MEE|MGBA|MGBE|MGBEE|MGBI|MGBO|
MGBOO|MGBU|MI|MO|MOO|MU|NA|NDA|NDE|NDEE|NDI|NDO|NDOLE (DO|FA|KA|MA|SOO)|NDOO|NDU|NE|NEE|NG|NGAN|
NGEN|NGGA|NGGE|NGGEE|NGGEN|NGGI|NGGO|NGGOO|NGGU|NGON|NI|NJA|NJE|NJEE|NJI|NJO|NJOO|NJU|NO|NOO|NU|
NYA|NYE|NYEE|NYI|NYO|NYOO|NYU|O|ON|OO|OON|PA|PE|PEE|PI|PO|POO|PU|RA|RE|REE|RI|RO|ROO|RU|SA|SE|SEE|
SHA|SHE|SHEE|SHI|SHO|SHOO|SHU|SI|SO|SOO|SU|TA|TE|TEE|THA|THE|THEE|THI|THO|THOO|THU|TI|TO|TOO|TU|U|
UN|VA|VE|VEE|VI|VO|VOO|VU|WA|WAN|WE|WEE|WEEN|WEN|WI|WIN|WO|WON|WOO|WOON|WU|WUN|YA|YE|YEE|YI|YO|YOO|
YU|ZA|ZE|ZEE|ZHA|ZHE|ZHEE|ZHI|ZHO|ZHOO|ZHU|ZI|ZO|ZOO|ZU)|SYMBOL (BANG|DANG|DO-O|DOONG|FAA|FEENG|
JONG|KEENG|KUNG|NII|TAA|TING|TONG))|VAMPIRE|(VARIATION SELECTOR-|VS)(1~256)|
VEDIC (SIGN (ANUSVARA (ANTARGOMUKHA|BAHIRGOMUKHA|UBHAYATO MUKHA|VAMAGOMUKHA( WITH TAIL|))|
ARDHAVISARGA|ATIKRAMA|DOUBLE ANUSVARA ANTARGOMUKHA|(HEXIFORM LONG|LONG|RTHANG LONG) ANUSVARA|
JIHVAMULIYA|NIHSHVASA|REVERSED VISARGA (ANUDATTA|UDATTA)|ROTATED ARDHAVISARGA|TIRYAK|UPADHMANIYA|
VISARGA ((ANUDATTA|UDATTA)( WITH TAIL|)|SVARITA)|YAJURVEDIC MIDLINE SVARITA)|TONE ((ATHARVAVEDIC|
RIGVEDIC KASHMIRI) INDEPENDENT SVARITA|CANDRA (ABOVE|BELOW)|(DOT|THREE DOTS|TWO DOTS) BELOW|
DOUBLE (RING ABOVE|SVARITA)|KARSHANA|KATHAKA ANUDATTA|PRENKHA|RING ABOVE|SHARA|TRIPLE SVARITA|
YAJURVEDIC ((AGGRAVATED INDEPENDENT|INDEPENDENT) SVARITA|KATHAKA INDEPENDENT SVARITA( SCHROEDER|
))))|VERSICLE|VERTICAL( (BAR (BESIDE RIGHT TRIANGLE|(DOUBLE LEFT|TRIPLE RIGHT) TURNSTILE|
WITH HORIZONTAL STROKE)|ELLIPSIS|(FOUR|SIX) DOTS|IDEOGRAPHIC ITERATION MARK|
KANA REPEAT (MARK( (LOWER|UPPER) HALF|)|WITH VOICED SOUND MARK( UPPER HALF|))|LINE( (EXTENSION|
WITH (CIRCLE (ABOVE|BELOW)|MIDDLE DOT))|)|MALE WITH STROKE SIGN|ONE( (EIGHTH( (BLOCK(-(2~7))))))|
TAB KEY|TABULATION( SET|)|TILDE|TRAFFIC LIGHT|ZIGZAG LINE))|VERY (BOLD GREEK CROSS|
HEAVY (EIGHT (POINTED BLACK STAR|SPOKED ASTERISK)|(FIVE|SIX) SPOKED ASTERISK|GREEK CROSS|
REVERSE SOLIDUS|SALTIRE|SOLIDUS|WHITE (CIRCLE|SQUARE))|MUCH (GREATER|LESS)-THAN)|VESTA|
VIBRATION MODE|VIDEO (CAMERA|GAME)|VIDEOCASSETTE|VIETNAMESE ALTERNATE READING MARK (CA|NHAY)|
VIEWDATA SQUARE|VIOLIN|VIRGO|VITHKUQI (CAPITAL|SMALL) LETTER (A|BBE|BE|CE|CHE|DE|DHE|E|EI|FE|GA|HA|
HHA|I|IJE|JE|KA|LA|LLA|ME|NE|NJE|O|PE|QA|RE|SE|SHE|TE|THE|U|VE|XE|Y|ZE)|VOLCANO|VOLLEYBALL|VT|VTS|
VULCANUS|VULGAR FRACTION (FIVE (EIGHTHS|SIXTHS)|FOUR FIFTHS|ONE (EIGHTH|FIFTH|HALF|NINTH|QUARTER|
SEVENTH|SIXTH|TENTH|THIRD)|SEVEN EIGHTHS|THREE (EIGHTHS|FIFTHS|QUARTERS)|TWO (FIFTHS|THIRDS)|
ZERO THIRDS)|WAFFLE|WANCHO (DIGIT (EIGHT|FIVE|FOUR|NINE|ONE|SEVEN|SIX|THREE|TWO|ZERO)|LETTER (A|AA|
AAN|AANG|ANG|AU|BA|CA|DA|E|EN|FA|GA|HA|I|ING|JA|KA|KHA|LA|LLHA|MA|NA|NGA|NYA|O|ON|ONG|PA|PHA|RA|SA|
SHA|TA|THA|TRA|TSA|U|UEN|VA|WA|YA|YIH|ZA)|NGUN SIGN|TONE (KOI|KOINI|TUP|TUPNI))|(WANING|
WAXING) (CRESCENT|GIBBOUS) MOON SYMBOL|WARANG CITI ((CAPITAL|SMALL) LETTER (A|AM|ANG|AT|BU|DA|E|
ENN|ENY|GA|HAR|HIYO|HOLO|HORR|II|KO|NGAA|NUNG|O|ODD|PU|SII|SSUU|TTE|UC|UU|VIYO|WI|YA|YO|YU|YUJ)|
DIGIT (EIGHT|FIVE|FOUR|NINE|ONE|SEVEN|SIX|THREE|TWO|ZERO)|NUMBER (EIGHTY|FIFTY|FORTY|NINETY|
SEVENTY|SIXTY|TEN|THIRTY|TWENTY)|OM)|WASTEBASKET|WATCH|WATER (BUFFALO|CLOSET|POLO|WAVE)|WATERMELON|
WAVE (ARROW POINTING DIRECTLY (LEFT|RIGHT)|DASH)|WAVING ((BLACK|WHITE) FLAG|HAND SIGN)|WAVY (DASH|
LINE|LOW LINE|OVERLINE)|WEDDING|WEIGHT LIFTER|WHALE|WHEEL( OF DHARMA|)|
WHITE( (ARROW SHAFT WIDTH (ONE|TWO THIRDS)|BULLET|CHESS ((BISHOP|KING|PAWN|QUEEN|
ROOK)( ROTATED (NINETY|TWO HUNDRED SEVENTY) DEGREES|)|EQUIHOPPER( ROTATED NINETY DEGREES|)|
KNIGHT( ROTATED ((FORTY-FIVE|NINETY|ONE HUNDRED THIRTY-FIVE|THREE HUNDRED FIFTEEN) DEGREES|
TWO HUNDRED (SEVENTY|TWENTY-FIVE) DEGREES)|-(BISHOP|QUEEN|ROOK)|)|TURNED (BISHOP|KING|KNIGHT|PAWN|
QUEEN|ROOK))|CIRCLE( (CONTAINING BLACK SMALL CIRCLE|WITH (DOT RIGHT|DOWN ARROW|(LOWER|UPPER) (LEFT|
RIGHT) QUADRANT|TWO DOTS))|)|(CLUB|SPADE) SUIT|CONCAVE-SIDED DIAMOND( WITH (LEFTWARDS|
RIGHTWARDS) TICK|)|DIAMOND( (CONTAINING BLACK (MEDIUM|SMALL|VERY SMALL) DIAMOND|IN SQUARE|SUIT|
WITH CENTRED DOT)|)|DOWN( POINTING ((BACKHAND|LEFT HAND) INDEX|INDEX)|-POINTING (SMALL TRIANGLE|
TRIANGLE))|DRAUGHTS (KING|MAN)|(EXCLAMATION|QUESTION) MARK ORNAMENT|
FLAG( WITH HORIZONTAL MIDDLE BLACK STRIPE|)|FLORETTE|FLOWER|FOUR POINTED (CUSP|STAR)|(FROWNING|
SMILING) FACE|HARD SHELL FLOPPY DISK|HEART( SUIT|)|HEAVY (CHECK MARK|SALTIRE WITH ROUNDED CORNERS)|
HEXAGON|HORIZONTAL ELLIPSE|HOURGLASS|(LARGE|VERY SMALL) SQUARE|LATIN CROSS|LEFT( (LANE MERGE|
POINTING (BACKHAND INDEX|INDEX))|-POINTING (POINTER|SMALL TRIANGLE|TRIANGLE))|
LOZENGE CONTAINING BLACK SMALL LOZENGE|MEDIUM (DIAMOND|LOZENGE|SMALL SQUARE|SQUARE|STAR)|
MOON SELENA|NIB|PARALLELOGRAM|PENNANT|PENTAGON|RECTANGLE|RIGHT( POINTING (BACKHAND INDEX|INDEX)|
-POINTING (PENTAGON|POINTER|SMALL TRIANGLE|TRIANGLE))|SCISSORS|SESAME DOT|SHOGI PIECE|
SMALL (LOZENGE|SQUARE|STAR)|SQUARE( (BUTTON|CONTAINING BLACK (MEDIUM|SMALL|VERY SMALL) SQUARE|
WITH ((CENTRE VERTICAL|VERTICAL BISECTING) LINE|(LEFTWARDS|RIGHTWARDS) TICK|(LOWER|UPPER) (LEFT|
RIGHT) QUADRANT|ROUNDED CORNERS))|)|STAR|SUN( (BEHIND CLOUD( WITH RAIN|)|WITH (RAYS|SMALL CLOUD))|
)|TELEPHONE|TOUCHTONE TELEPHONE|TRAPEZIUM|TRIANGLE CONTAINING SMALL WHITE TRIANGLE|
TWO-WAY LEFT WAY TRAFFIC|UP( POINTING (BACKHAND INDEX|INDEX)|-POINTING (CHEVRON|SMALL TRIANGLE|
TRIANGLE( WITH DOT|)))|VERTICAL (BAR|ELLIPSE|RECTANGLE))|-FEATHERED RIGHTWARDS ARROW)|
WIDE-HEADED ((DOWNWARDS|LEFTWARDS|RIGHTWARDS|UPWARDS) (BARB|HEAVY BARB|LIGHT BARB|MEDIUM BARB|
VERY HEAVY BARB) ARROW|(NORTH|SOUTH) (EAST|WEST) (BARB|HEAVY BARB|LIGHT BARB|MEDIUM BARB|
VERY HEAVY BARB) ARROW)|WILTED FLOWER|WIND (BLOWING FACE|CHIME)|WINDOW|WIRED KEYBOARD|WJ|
WOMAN( WITH BUNNY EARS|)|WOMANS (BOOTS|CLOTHES|HAT|SANDAL)|WOOD|WORD (JOINER|SEPARATOR MIDDLE DOT)|
WORLD MAP|WORM|WRAPPED PRESENT|WRENCH|WRESTLERS|X( IN A RECTANGLE BOX|-RAY)|XIANGQI (BLACK|
RED) (CANNON|CHARIOT|ELEPHANT|GENERAL|HORSE|MANDARIN|SOLDIER)|XOR|YEZIDI (COMBINING (HAMZA|
MADDA) MARK|HYPHENATION MARK|LETTER (BE|CHHIM|CHIM|CIM|DAD|DAL|ELIF|ET|EW|EYN|FA|GAF|HAY|HHA|JA|
KAF|KHAF|LAM( WITH DOT ABOVE|)|MIM|NUN|OW|PE|PHE|QAF|RA|RHA|SAD|SE|SHIN|SIN|TA|THE|UM|
VA( ALTERNATE FORM|)|WAW|XA|XHEYN|YOT( WITH CIRCUMFLEX ABOVE|)|ZA|ZAL|ZE))|YI (RADICAL (BBUT|BUR|
CHE|CIP|CUOP|CY|CYP|CYT|DDUR|DU|GA|GEP|GGOP|GGUO|GOT|HMO|HXIT|HXOP|HXUO|JJIE|JJUT|JJY|JO|KE|KIT|LI|
LIE|LYR|MI|MOP|NBIE|NYIP|NYOP|NZUP|OP|PUT|PYT|QOT|SHAT|SHOP|SHUR|SHY|SSI|TAT|TU|VEP|VUR|WO|YIT|YO|
ZA|ZOT|ZUP|ZUR|ZZIET)|SYLLABLE (A|AP|AT|AX|BA|BAP|BAT|BAX|BBA|BBAP|BBAT|BBAX|BBE|BBEP|BBEX|BBI|
BBIE|BBIEP|BBIET|BBIEX|BBIP|BBIT|BBIX|BBO|BBOP|BBOT|BBOX|BBU|BBUO|BBUOP|BBUOX|BBUP|BBUR|BBURX|BBUT|
BBUX|BBY|BBYP|BBYT|BBYX|BE|BEP|BEX|BI|BIE|BIEP|BIET|BIEX|BIP|BIT|BIX|BO|BOP|BOT|BOX|BU|BUO|BUOP|
BUOX|BUP|BUR|BURX|BUT|BUX|BY|BYP|BYR|BYRX|BYT|BYX|CA|CAP|CAT|CAX|CE|CEP|CEX|CHA|CHAP|CHAT|CHAX|CHE|
CHEP|CHET|CHEX|CHO|CHOP|CHOT|CHOX|CHU|CHUO|CHUOP|CHUOT|CHUOX|CHUP|CHUR|CHURX|CHUX|CHY|CHYP|CHYR|
CHYRX|CHYT|CHYX|CI|CIE|CIEP|CIET|CIEX|CIP|CIT|CIX|CO|COP|COT|COX|CU|CUO|CUOP|CUOX|CUP|CUR|CURX|CUT|
CUX|CY|CYP|CYR|CYRX|CYT|CYX|DA|DAP|DAT|DAX|DDA|DDAP|DDAT|DDAX|DDE|DDEP|DDEX|DDI|DDIE|DDIEP|DDIEX|
DDIP|DDIT|DDIX|DDO|DDOP|DDOT|DDOX|DDU|DDUO|DDUOP|DDUOX|DDUP|DDUR|DDURX|DDUT|DDUX|DE|DEP|DEX|DI|DIE|
DIEP|DIEX|DIP|DIT|DIX|DO|DOP|DOT|DOX|DU|DUO|DUOX|DUP|DUR|DURX|DUT|DUX|E|EX|FA|FAP|FAT|FAX|FI|FIP|
FIT|FIX|FO|FOP|FOX|FU|FUP|FUR|FURX|FUT|FUX|FY|FYP|FYT|FYX|GA|GAP|GAT|GAX|GE|GEP|GET|GEX|GGA|GGAP|
GGAT|GGAX|GGE|GGEP|GGET|GGEX|GGI|GGIE|GGIEP|GGIEX|GGIT|GGIX|GGO|GGOP|GGOT|GGOX|GGU|GGUO|GGUOP|
GGUOT|GGUOX|GGUP|GGUR|GGURX|GGUT|GGUX|GI|GIE|GIEP|GIET|GIEX|GIP|GIT|GIX|GO|GOP|GOT|GOX|GU|GUO|GUOP|
GUOT|GUOX|GUP|GUR|GURX|GUT|GUX|HA|HAP|HAT|HAX|HE|HEP|HEX|HIE|HIEX|HIT|HLA|HLAP|HLAT|HLAX|HLE|HLEP|
HLEX|HLI|HLIE|HLIEP|HLIEX|HLIP|HLIT|HLIX|HLO|HLOP|HLOX|HLU|HLUO|HLUOP|HLUOX|HLUP|HLUR|HLURX|HLUT|
HLUX|HLY|HLYP|HLYR|HLYRX|HLYT|HLYX|HMA|HMAP|HMAT|HMAX|HMI|HMIE|HMIEP|HMIEX|HMIP|HMIT|HMIX|HMO|HMOP|
HMOT|HMOX|HMU|HMUO|HMUOP|HMUOX|HMUP|HMUR|HMURX|HMUT|HMUX|HMY|HMYP|HMYR|HMYRX|HMYX|HNA|HNAP|HNAT|
HNAX|HNE|HNEP|HNEX|HNI|HNIE|HNIEP|HNIET|HNIEX|HNIP|HNIT|HNIX|HNOP|HNOT|HNOX|HNUO|HNUOX|HNUT|HO|HOP|
HOT|HOX|HUO|HUOP|HUOT|HUOX|HXA|HXAP|HXAT|HXAX|HXE|HXEP|HXEX|HXI|HXIE|HXIEP|HXIET|HXIEX|HXIP|HXIT|
HXIX|HXO|HXOP|HXOT|HXOX|HXUO|HXUOP|HXUOT|HXUOX|I|IE|IEP|IET|IEX|IP|IT|ITERATION MARK|IX|JI|JIE|
JIEP|JIET|JIEX|JIP|JIT|JIX|JJI|JJIE|JJIEP|JJIET|JJIEX|JJIP|JJIT|JJIX|JJO|JJOP|JJOT|JJOX|JJU|JJUO|
JJUOP|JJUOX|JJUP|JJUR|JJURX|JJUT|JJUX|JJY|JJYP|JJYT|JJYX|JO|JOP|JOT|JOX|JU|JUO|JUOP|JUOT|JUOX|JUP|
JUR|JURX|JUT|JUX|JY|JYP|JYR|JYRX|JYT|JYX|KA|KAP|KAT|KAX|KE|KEP|KET|KEX|KI|KIE|KIEP|KIEX|KIP|KIT|
KIX|KO|KOP|KOT|KOX|KU|KUO|KUOP|KUOX|KUP|KUR|KURX|KUT|KUX|LA|LAP|LAT|LAX|LE|LEP|LEX|LI|LIE|LIEP|
LIET|LIEX|LIP|LIT|LIX|LO|LOP|LOT|LOX|LU|LUO|LUOP|LUOT|LUOX|LUP|LUR|LURX|LUT|LUX|LY|LYP|LYR|LYRX|
LYT|LYX|MA|MAP|MAT|MAX|ME|MEX|MGA|MGAP|MGAT|MGAX|MGE|MGEP|MGEX|MGIE|MGIEX|MGO|MGOP|MGOT|MGOX|MGU|
MGUO|MGUOP|MGUOX|MGUP|MGUR|MGURX|MGUT|MGUX|MI|MIE|MIEP|MIEX|MIP|MIT|MIX|MO|MOP|MOT|MOX|MU|MUO|MUOP|
MUOT|MUOX|MUP|MUR|MURX|MUT|MUX|MY|MYP|MYT|MYX|NA|NAP|NAX|NBA|NBAP|NBAT|NBAX|NBI|NBIE|NBIEP|NBIEX|
NBIP|NBIT|NBIX|NBO|NBOP|NBOT|NBOX|NBU|NBUP|NBUR|NBURX|NBUT|NBUX|NBY|NBYP|NBYR|NBYRX|NBYT|NBYX|NDA|
NDAP|NDAT|NDAX|NDE|NDEP|NDEX|NDI|NDIE|NDIEX|NDIP|NDIT|NDIX|NDO|NDOP|NDOT|NDOX|NDU|NDUP|NDUR|NDURX|
NDUT|NDUX|NE|NEP|NEX|NGA|NGAP|NGAT|NGAX|NGE|NGEP|NGEX|NGIE|NGIEP|NGIEX|NGO|NGOP|NGOT|NGOX|NGUO|
NGUOT|NGUOX|NI|NIE|NIEP|NIEX|NIP|NIT|NIX|NJI|NJIE|NJIEP|NJIET|NJIEX|NJIP|NJIT|NJIX|NJO|NJOP|NJOT|
NJOX|NJU|NJUO|NJUOX|NJUP|NJUR|NJURX|NJUX|NJY|NJYP|NJYR|NJYRX|NJYT|NJYX|NO|NOP|NOT|NOX|NRA|NRAP|
NRAT|NRAX|NRE|NREP|NRET|NREX|NRO|NROP|NROX|NRU|NRUP|NRUR|NRURX|NRUT|NRUX|NRY|NRYP|NRYR|NRYRX|NRYT|
NRYX|NU|NUO|NUOP|NUOX|NUP|NUR|NURX|NUT|NUX|NYI|NYIE|NYIEP|NYIET|NYIEX|NYIP|NYIT|NYIX|NYO|NYOP|NYOT|
NYOX|NYU|NYUO|NYUOP|NYUOX|NYUP|NYUT|NYUX|NZA|NZAP|NZAT|NZAX|NZE|NZEX|NZI|NZIE|NZIEP|NZIEX|NZIP|
NZIT|NZIX|NZOP|NZOX|NZU|NZUO|NZUOX|NZUP|NZUR|NZURX|NZUX|NZY|NZYP|NZYR|NZYRX|NZYT|NZYX|O|OP|OT|OX|
PA|PAP|PAT|PAX|PI|PIE|PIEP|PIEX|PIP|PIT|PIX|PO|POP|POT|POX|PU|PUO|PUOP|PUOX|PUP|PUR|PURX|PUT|PUX|
PY|PYP|PYR|PYRX|PYT|PYX|QI|QIE|QIEP|QIET|QIEX|QIP|QIT|QIX|QO|QOP|QOT|QOX|QU|QUO|QUOP|QUOT|QUOX|QUP|
QUR|QURX|QUT|QUX|QY|QYP|QYR|QYRX|QYT|QYX|RA|RAP|RAT|RAX|RE|REP|REX|RO|ROP|ROT|ROX|RRA|RRAX|RRE|
RREP|RRET|RREX|RRO|RROP|RROT|RROX|RRU|RRUO|RRUOX|RRUP|RRUR|RRURX|RRUT|RRUX|RRY|RRYP|RRYR|RRYRX|
RRYT|RRYX|RU|RUO|RUOP|RUOX|RUP|RUR|RURX|RUT|RUX|RY|RYP|RYR|RYRX|RYT|RYX|SA|SAP|SAT|SAX|SE|SEP|SEX|
SHA|SHAP|SHAT|SHAX|SHE|SHEP|SHET|SHEX|SHO|SHOP|SHOT|SHOX|SHU|SHUO|SHUOP|SHUOX|SHUP|SHUR|SHURX|SHUT|
SHUX|SHY|SHYP|SHYR|SHYRX|SHYT|SHYX|SI|SIE|SIEP|SIEX|SIP|SIT|SIX|SO|SOP|SOT|SOX|SSA|SSAP|SSAT|SSAX|
SSE|SSEP|SSEX|SSI|SSIE|SSIEP|SSIEX|SSIP|SSIT|SSIX|SSO|SSOP|SSOT|SSOX|SSU|SSUP|SSUT|SSUX|SSY|SSYP|
SSYR|SSYRX|SSYT|SSYX|SU|SUO|SUOP|SUOX|SUP|SUR|SURX|SUT|SUX|SY|SYP|SYR|SYRX|SYT|SYX|TA|TAP|TAT|TAX|
TE|TEP|TEX|TI|TIE|TIEP|TIEX|TIP|TIT|TIX|TO|TOP|TOT|TOX|TU|TUO|TUOP|TUOT|TUOX|TUP|TUR|TURX|TUT|TUX|
UO|UOP|UOX|VA|VAP|VAT|VAX|VEP|VEX|VI|VIE|VIEP|VIET|VIEX|VIP|VIT|VIX|VO|VOP|VOT|VOX|VU|VUP|VUR|VURX|
VUT|VUX|VY|VYP|VYR|VYRX|VYT|VYX|WA|WAP|WAT|WAX|WE|WEP|WEX|WO|WOP|WOX|WU|WUO|WUOP|WUOX|XI|XIE|XIEP|
XIET|XIEX|XIP|XIT|XIX|XO|XOP|XOT|XOX|XUO|XUOX|XY|XYP|XYR|XYRX|XYT|XYX|YI|YIE|YIEP|YIET|YIEX|YIP|
YIT|YIX|YO|YOP|YOT|YOX|YU|YUO|YUOP|YUOT|YUOX|YUP|YUR|YURX|YUT|YUX|YY|YYP|YYR|YYRX|YYT|YYX|ZA|ZAP|
ZAT|ZAX|ZE|ZEP|ZEX|ZHA|ZHAP|ZHAT|ZHAX|ZHE|ZHEP|ZHET|ZHEX|ZHO|ZHOP|ZHOT|ZHOX|ZHU|ZHUO|ZHUOP|ZHUOX|
ZHUP|ZHUR|ZHURX|ZHUT|ZHUX|ZHY|ZHYP|ZHYR|ZHYRX|ZHYT|ZHYX|ZI|ZIE|ZIEP|ZIEX|ZIP|ZIT|ZIX|ZO|ZOP|ZOT|
ZOX|ZU|ZUO|ZUOP|ZUOX|ZUP|ZUR|ZURX|ZUT|ZUX|ZY|ZYP|ZYR|ZYRX|ZYT|ZYX|ZZA|ZZAP|ZZAT|ZZAX|ZZE|ZZEP|ZZEX|
ZZI|ZZIE|ZZIEP|ZZIET|ZZIEX|ZZIP|ZZIT|ZZIX|ZZO|ZZOP|ZZOX|ZZU|ZZUP|ZZUR|ZZURX|ZZUX|ZZY|ZZYP|ZZYR|
ZZYRX|ZZYT|ZZYX))|YIN YANG|YO-YO|Z NOTATION (BAG MEMBERSHIP|(DOMAIN|RANGE) ANTIRESTRICTION|(LEFT|
RIGHT) (BINDING|IMAGE) BRACKET|RELATIONAL COMPOSITION|SCHEMA (COMPOSITION|PIPING|PROJECTION)|SPOT|
TYPE COLON)|ZANABAZAR SQUARE ((CLOSING|INITIAL) (DOUBLE-LINED HEAD|HEAD) MARK|
CLUSTER-(FINAL LETTER (LA|RA|VA|YA)|INITIAL LETTER RA)|FINAL CONSONANT MARK|LETTER (-A|A|BA|BHA|CA|
CHA|DA|DDA|DDHA|DHA|DZA|DZHA|GA|GHA|HA|JA|KA|KHA|KSSA|LA|MA|NA|NGA|NNA|NYA|PA|PHA|RA|SA|SHA|SSA|TA|
THA|TSA|TSHA|TTA|TTHA|VA|YA|ZA|ZHA)|MARK (DOUBLE SHAD|LONG TSHEG|SHAD|TSHEG)|SIGN (ANUSVARA|
CANDRA WITH ORNAMENT|CANDRABINDU( WITH ORNAMENT|)|VIRAMA|VISARGA)|SUBJOINER|VOWEL (LENGTH MARK|
SIGN (AI|AU|E|I|O|OE|REVERSED I|U|UE)))|ZERO WIDTH (JOINER|NO-BREAK SPACE|NON-JOINER|SPACE)|ZEUS|
ZNAMENNY (COMBINING (ATTACHING VERTICAL OMET|LOWER TONAL RANGE INDICATOR|MARK (BORZAYA|
CHASHKA( POLNAYA|)|CURVED OMET|DEMESTVENNY ZADERZHKA|DVOETOCHIE|GORAZDO (NIZKO (ON|
S KRYZHEM ON) (LEFT|RIGHT)|VYSOKO)|KACHKA|KRYZH( ON LEFT|)|KUPNAYA|LOMKA|(MALO POVYSHE|
POVYSHE) (ON (LEFT|RIGHT)|S (KHOKHLOM ON (LEFT|RIGHT)|KRYZHEM)|STRANNO)|NIZKO (ON|
S KRYZHEM ON) (LEFT|RIGHT)|OBLACHKO|ON|OTSECHKA|PODCHASHIE( WITH VERTICAL STROKE|)|PODVERTKA|RAVNO|
RAZSEKA|SKOBA|SOROCHYA NOZHKA|SREDNE ON (LEFT|RIGHT)|STRANNO MALO POVYSHE|TIKHAYA|TOCHKA|
TSATA (ON (LEFT|RIGHT)|S KRYZHEM)|UDARKA|VYSOKO (ON (LEFT|RIGHT)|S (KHOKHLOM ON (LEFT|RIGHT)|
KRYZHEM))|ZADERZHKA|ZELO|ZEVOK)|TONAL RANGE MARK (MRACHNO|SVETLO|TRESVETLO))|NEUME (CHASHKA|
CHELYUSTKA|DEMESTVENNY KLYUCH|DERBITSA|DOUBLE ZAPYATAYA|DUDA|DVA V CHELNU|FITA|GOLUBCHIK (BORZY|
MRACHNY|SVETLY|TIKHY|TRESVETLY)|KHAMILO|KLYUCH|KOBYLA|KRYUK( TIKHY|)|KRYZH|KUFISMA|
MECHIK( (KLYUCHENEPOSTOYANNY|KLYUCHEPOVODNY|KLYUCHEVOY|POVODNY)|)|NEMKA|OBLAKO|
OSOKA( (KLYUCHEVAYA (NEPOSTOYANNAYA|SVETLAYA)|KRYUKOVAYA SVETLAYA|SVETLAYA|TRESVETLAYA)|)|PALKA|
PARAKLIT|PAUK|PEREVODKA( NEPOSTOYANNAYA|)|PODCHASHIE|POLKULIZMY|REVERSED CHELYUSTKA|ROG|
SKAMEYTSA (DVOECHELNAYA (KLYUCHEVAYA|NEPOSTOYANNAYA|PROSTAYA|SVETLAYA)|KLYUCHENEPOSTOYANNAYA|
KLYUCHEVAYA (SVETLAYA|TIKHAYA)|MRACHNAYA|SVETLAYA|TIKHAYA|TRESVETLAYA)|SLOZHITIE( (S (KRYZHEM|
ZAPYATOY)|ZAKRYTOE)|)|STATYA( (NEPOSTOYANNAYA|S (DVUMYA ZAPYATYMI|KRYZHEM( I ZAPYATOY|)|ROGOM|
ZAPYATOY( I (KRYZHEM|PODCHASHIEM)|))|ZAKRYTAYA( S ZAPYATOY|))|)|STOPITSA( (S OCHKOM|
WITH SOROCHYA NOZHKA)|)|STRELA ((DVOECHELNAYA|DVOECHELNOPOVODNAYA)( KLYUCHEVAYA|)|
DVOECHELNOKRYZHEVAYA|GROMNAYA( WITH SINGLE ZAPYATAYA|)|GROMOKRYZHEVAYA( POVODNAYA|)|
GROMOPOVODNAYA( WITH (DOUBLE|SINGLE) ZAPYATAYA|)|KLYUCHENEPOSTOYANNAYA|KLYUCHEPOVODNAYA|
KRYUKOVAYA( (GROMNAYA( WITH SINGLE ZAPYATAYA|)|GROMOKRYZHEVAYA( POVODNAYA|)|
GROMOPOVODNAYA( WITH (DOUBLE|SINGLE) ZAPYATAYA|)|POVODNAYA|TRYASKA)|)|KRYZHEVAYA|MRACHNOTIKHAYA|
NEPOSTOYANNAYA|POLUPOVODNAYA|POVODNAYA|PROSTAYA|TIKHAYA PUTNAYA|TRYASOGLASNAYA|TRYASOPOVODNAYA|
TRYASOSTRELNAYA)|VRAKHIYA (KLYUCHEVAYA (MRACHNAYA|PROSTAYA|SVETLAYA|TRESVETLAYA)|MRACHNAYA|
PROSTAYA|SVETLAYA|TRESVETLAYA)|ZANOZHEK|ZAPYATAYA|ZMEYTSA)|PRIZNAK MODIFIER (DIRECTION FLIP|KRYZH|
LEVEL-(2|3)|ROG))|ZOMBIE|ZWJ|ZWNBSP|ZWNJ|ZWSP"

end MapStyle.Text

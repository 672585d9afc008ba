import ConstantSweep.Text.CharacterName.Run

set_option autoImplicit false

namespace ConstantSweep.Text

def pictographsNames : List NameRun :=
  [⟨0x1e800, "MENDE KIKAKUI SYLLABLE ", ["M001 KI,M002 KA,M003 KU,M065 KEE,M095 KE,M076 KOO,M048 KO",
    "M179 KUA,M004 WI,M005 WA,M006 WU,M126 WEE,M118 WE,M114 WOO,M045 WO,M194 WUI,M143 WEI,M061 WVI",
    "M049 WVA,M139 WVE,M007 MIN,M008 MAN,M009 MUN,M059 MEN,M094 MON,M154 MUAN,M189 MUEN,M010 BI",
    "M011 BA,M012 BU,M150 BEE,M097 BE,M103 BOO,M138 BO,M013 I,M014 A,M015 U,M163 EE,M100 E,M165 OO",
    "M147 O,M137 EI,M131 IN,M135 IN,M195 AN,M178 EN,M019 SI,M020 SA,M021 SU,M162 SEE,M116 SE",
    "M136 SOO,M079 SO,M196 SIA,M025 LI,M026 LA,M027 LU,M084 LEE,M073 LE,M054 LOO,M153 LO",
    "M110 LONG LE,M016 DI,M017 DA,M018 DU,M089 DEE,M180 DOO,M181 DO,M022 TI,M023 TA,M024 TU",
    "M091 TEE,M055 TE,M104 TOO,M069 TO,M028 JI,M029 JA,M030 JU,M157 JEE,M113 JE,M160 JOO,M063 JO",
    "M175 LONG JO,M031 YI,M032 YA,M033 YU,M109 YEE,M080 YE,M141 YOO,M121 YO,M034 FI,M035 FA,M036 FU",
    "M078 FEE,M075 FE,M133 FOO,M088 FO,M197 FUA,M101 FAN,M037 NIN,M038 NAN,M039 NUN,M117 NEN",
    "M169 NON,M176 HI,M041 HA,M186 HU,M040 HEE,M096 HE,M042 HOO,M140 HO,M083 HEEI,M128 HOOU",
    "M053 HIN,M130 HAN,M087 HUN,M052 HEN,M193 HON,M046 HUAN,M090 NGGI,M043 NGGA,M082 NGGU",
    "M115 NGGEE,M146 NGGE,M156 NGGOO,M120 NGGO,M159 NGGAA,M127 NGGUA,M086 LONG NGGE,M106 LONG NGGOO",
    "M183 LONG NGGO,M155 GI,M111 GA,M168 GU,M190 GEE,M166 GUEI,M167 GUAN,M184 NGEN,M057 NGON",
    "M177 NGUAN,M068 PI,M099 PA,M050 PU,M081 PEE,M051 PE,M102 POO,M066 PO,M145 MBI,M062 MBA",
    "M122 MBU,M047 MBEE,M188 MBEE,M072 MBE,M172 MBOO,M174 MBO,M187 MBUU,M161 LONG MBE",
    "M105 LONG MBOO,M142 LONG MBO,M132 KPI,M092 KPA,M074 KPU,M044 KPEE,M108 KPE,M112 KPOO,M158 KPO",
    "M124 GBI,M056 GBA,M148 GBU,M093 GBEE,M107 GBE,M071 GBOO,M070 GBO,M171 RA,M123 NDI,M129 NDA",
    "M125 NDU,M191 NDEE,M119 NDE,M067 NDOO,M064 NDO,M152 NJA,M192 NJU,M149 NJEE,M134 NJOO,M182 VI",
    "M185 VA,M151 VU,M173 VEE,M085 VE,M144 VOO,M077 VO,M164 NYIN,M058 NYAN,M170 NYUN,M098 NYEN",
    "M060 NYON"]⟩,
   ⟨0x1e8c7, "MENDE KIKAKUI DIGIT ", ["ONE,TWO,THREE,FOUR,FIVE,SIX,SEVEN,EIGHT,NINE"]⟩,
   ⟨0x1e8d0, "MENDE KIKAKUI COMBINING NUMBER ", ["TEENS,TENS,HUNDREDS,THOUSANDS,TEN THOUSANDS",
    "HUNDRED THOUSANDS,MILLIONS"]⟩,
   ⟨0x1e900, "ADLAM CAPITAL LETTER ", ["ALIF,DAALI,LAAM,MIIM,BA,SINNYIIYHE,PE,BHE,RA,E,FA,I,O,DHA",
    "YHE,WAW,NUN,KAF,YA,U,JIIM,CHI,HA,QAAF,GA,NYA,TU,NHA,VA,KHA,GBE,ZAL,KPO,SHA"]⟩,
   ⟨0x1e922, "ADLAM SMALL LETTER ", ["ALIF,DAALI,LAAM,MIIM,BA,SINNYIIYHE,PE,BHE,RA,E,FA,I,O,DHA,YHE",
    "WAW,NUN,KAF,YA,U,JIIM,CHI,HA,QAAF,GA,NYA,TU,NHA,VA,KHA,GBE,ZAL,KPO,SHA"]⟩,
   ⟨0x1e944, "ADLAM ", ["ALIF LENGTHENER,VOWEL LENGTHENER,GEMINATION MARK,HAMZA,CONSONANT MODIFIER",
    "GEMINATE CONSONANT MODIFIER,NUKTA,NASALIZATION MARK"]⟩,
   ⟨0x1e950, "ADLAM DIGIT ", ["ZERO,ONE,TWO,THREE,FOUR,FIVE,SIX,SEVEN,EIGHT,NINE"]⟩,
   ⟨0x1e95e, "ADLAM INITIAL ", ["EXCLAMATION MARK,QUESTION MARK"]⟩,
   ⟨0x1ec71, "INDIC SIYAQ NUMBER ", ["ONE,TWO,THREE,FOUR,FIVE,SIX,SEVEN,EIGHT,NINE,TEN,TWENTY",
    "THIRTY,FORTY,FIFTY,SIXTY,SEVENTY,EIGHTY,NINETY,ONE HUNDRED,TWO HUNDRED,THREE HUNDRED",
    "FOUR HUNDRED,FIVE HUNDRED,SIX HUNDRED,SEVEN HUNDRED,EIGHT HUNDRED,NINE HUNDRED,ONE THOUSAND",
    "TWO THOUSAND,THREE THOUSAND,FOUR THOUSAND,FIVE THOUSAND,SIX THOUSAND,SEVEN THOUSAND",
    "EIGHT THOUSAND,NINE THOUSAND,TEN THOUSAND,TWENTY THOUSAND,THIRTY THOUSAND,FORTY THOUSAND",
    "FIFTY THOUSAND,SIXTY THOUSAND,SEVENTY THOUSAND,EIGHTY THOUSAND,NINETY THOUSAND,LAKH,LAKHAN"]⟩,
   ⟨0x1eca0, "INDIC SIYAQ ", ["LAKH MARK,NUMBER KAROR,NUMBER KARORAN"]⟩,
   ⟨0x1eca3, "INDIC SIYAQ NUMBER PREFIXED ", ["ONE,TWO,THREE,FOUR,FIVE,SIX,SEVEN,EIGHT,NINE"]⟩,
   ⟨0x1ecac, "INDIC SIYAQ ", ["PLACEHOLDER,FRACTION ONE QUARTER,FRACTION ONE HALF",
    "FRACTION THREE QUARTERS,RUPEE MARK,NUMBER ALTERNATE ONE,NUMBER ALTERNATE TWO",
    "NUMBER ALTERNATE TEN THOUSAND,ALTERNATE LAKH MARK"]⟩,
   ⟨0x1ed01, "OTTOMAN SIYAQ NUMBER ", ["ONE,TWO,THREE,FOUR,FIVE,SIX,SEVEN,EIGHT,NINE,TEN,TWENTY",
    "THIRTY,FORTY,FIFTY,SIXTY,SEVENTY,EIGHTY,NINETY,ONE HUNDRED,TWO HUNDRED,THREE HUNDRED",
    "FOUR HUNDRED,FIVE HUNDRED,SIX HUNDRED,SEVEN HUNDRED,EIGHT HUNDRED,NINE HUNDRED,ONE THOUSAND",
    "TWO THOUSAND,THREE THOUSAND,FOUR THOUSAND,FIVE THOUSAND,SIX THOUSAND,SEVEN THOUSAND",
    "EIGHT THOUSAND,NINE THOUSAND,TEN THOUSAND,TWENTY THOUSAND,THIRTY THOUSAND,FORTY THOUSAND",
    "FIFTY THOUSAND,SIXTY THOUSAND,SEVENTY THOUSAND,EIGHTY THOUSAND,NINETY THOUSAND"]⟩,
   ⟨0x1ed2e, "", ["OTTOMAN SIYAQ MARRATAN"]⟩,
   ⟨0x1ed2f, "OTTOMAN SIYAQ ALTERNATE NUMBER ", ["TWO,THREE,FOUR,FIVE,SIX,SEVEN,EIGHT,NINE,TEN",
    "FOUR HUNDRED,SIX HUNDRED,TWO THOUSAND,TEN THOUSAND"]⟩,
   ⟨0x1ed3c, "OTTOMAN SIYAQ FRACTION ONE ", ["HALF,SIXTH"]⟩,
   ⟨0x1ee00, "ARABIC MATHEMATICAL ", ["ALEF,BEH,JEEM,DAL,,WAW,ZAIN,HAH,TAH,YEH,KAF,LAM,MEEM,NOON",
    "SEEN,AIN,FEH,SAD,QAF,REH,SHEEN,TEH,THEH,KHAH,THAL,DAD,ZAH,GHAIN,DOTLESS BEH,DOTLESS NOON",
    "DOTLESS FEH,DOTLESS QAF"]⟩,
   ⟨0x1ee21, "ARABIC MATHEMATICAL INITIAL ", ["BEH,JEEM,,HEH,,,HAH,,YEH,KAF,LAM,MEEM,NOON,SEEN,AIN",
    "FEH,SAD,QAF,,SHEEN,TEH,THEH,KHAH,,DAD,,GHAIN"]⟩,
   ⟨0x1ee42, "", ["ARABIC MATHEMATICAL TAILED JEEM"]⟩,
   ⟨0x1ee47, "ARABIC MATHEMATICAL TAILED ", ["HAH,,YEH,,LAM,,NOON,SEEN,AIN,,SAD,QAF,,SHEEN,,,KHAH,",
    "DAD,,GHAIN,,DOTLESS NOON,,DOTLESS QAF"]⟩,
   ⟨0x1ee61, "ARABIC MATHEMATICAL STRETCHED ", ["BEH,JEEM,,HEH,,,HAH,TAH,YEH,KAF,,MEEM,NOON,SEEN",
    "AIN,FEH,SAD,QAF,,SHEEN,TEH,THEH,KHAH,,DAD,ZAH,GHAIN,DOTLESS BEH,,DOTLESS FEH"]⟩,
   ⟨0x1ee80, "ARABIC MATHEMATICAL LOOPED ", ["ALEF,BEH,JEEM,DAL,HEH,WAW,ZAIN,HAH,TAH,YEH,,LAM,MEEM",
    "NOON,SEEN,AIN,FEH,SAD,QAF,REH,SHEEN,TEH,THEH,KHAH,THAL,DAD,ZAH,GHAIN"]⟩,
   ⟨0x1eea1, "ARABIC MATHEMATICAL DOUBLE-STRUCK ", ["BEH,JEEM,DAL,,WAW,ZAIN,HAH,TAH,YEH,,LAM,MEEM",
    "NOON,SEEN,AIN,FEH,SAD,QAF,REH,SHEEN,TEH,THEH,KHAH,THAL,DAD,ZAH,GHAIN"]⟩,
   ⟨0x1eef0, "ARABIC MATHEMATICAL OPERATOR ", ["MEEM WITH HAH WITH TATWEEL,HAH WITH DAL"]⟩,
   ⟨0x1f000, "MAHJONG TILE ", ["EAST WIND,SOUTH WIND,WEST WIND,NORTH WIND,RED DRAGON,GREEN DRAGON",
    "WHITE DRAGON,ONE OF CHARACTERS,TWO OF CHARACTERS,THREE OF CHARACTERS,FOUR OF CHARACTERS",
    "FIVE OF CHARACTERS,SIX OF CHARACTERS,SEVEN OF CHARACTERS,EIGHT OF CHARACTERS",
    "NINE OF CHARACTERS,ONE OF BAMBOOS,TWO OF BAMBOOS,THREE OF BAMBOOS,FOUR OF BAMBOOS",
    "FIVE OF BAMBOOS,SIX OF BAMBOOS,SEVEN OF BAMBOOS,EIGHT OF BAMBOOS,NINE OF BAMBOOS",
    "ONE OF CIRCLES,TWO OF CIRCLES,THREE OF CIRCLES,FOUR OF CIRCLES,FIVE OF CIRCLES,SIX OF CIRCLES",
    "SEVEN OF CIRCLES,EIGHT OF CIRCLES,NINE OF CIRCLES,PLUM,ORCHID,BAMBOO,CHRYSANTHEMUM,SPRING",
    "SUMMER,AUTUMN,WINTER,JOKER,BACK"]⟩,
   ⟨0x1f030, "", ["DOMINO TILE HORIZONTAL BACK"]⟩,
   ⟨0x1f031, "DOMINO TILE HORIZONTAL-", ["00-00,00-01,00-02,00-03,00-04,00-05,00-06,01-00,01-01",
    "01-02,01-03,01-04,01-05,01-06,02-00,02-01,02-02,02-03,02-04,02-05,02-06,03-00,03-01,03-02",
    "03-03,03-04,03-05,03-06,04-00,04-01,04-02,04-03,04-04,04-05,04-06,05-00,05-01,05-02,05-03",
    "05-04,05-05,05-06,06-00,06-01,06-02,06-03,06-04,06-05,06-06"]⟩,
   ⟨0x1f062, "", ["DOMINO TILE VERTICAL BACK"]⟩,
   ⟨0x1f063, "DOMINO TILE VERTICAL-", ["00-00,00-01,00-02,00-03,00-04,00-05,00-06,01-00,01-01,01-02",
    "01-03,01-04,01-05,01-06,02-00,02-01,02-02,02-03,02-04,02-05,02-06,03-00,03-01,03-02,03-03",
    "03-04,03-05,03-06,04-00,04-01,04-02,04-03,04-04,04-05,04-06,05-00,05-01,05-02,05-03,05-04",
    "05-05,05-06,06-00,06-01,06-02,06-03,06-04,06-05,06-06"]⟩,
   ⟨0x1f0a0, "PLAYING CARD ", ["BACK,ACE OF SPADES,TWO OF SPADES,THREE OF SPADES,FOUR OF SPADES",
    "FIVE OF SPADES,SIX OF SPADES,SEVEN OF SPADES,EIGHT OF SPADES,NINE OF SPADES,TEN OF SPADES",
    "JACK OF SPADES,KNIGHT OF SPADES,QUEEN OF SPADES,KING OF SPADES,,,ACE OF HEARTS,TWO OF HEARTS",
    "THREE OF HEARTS,FOUR OF HEARTS,FIVE OF HEARTS,SIX OF HEARTS,SEVEN OF HEARTS,EIGHT OF HEARTS",
    "NINE OF HEARTS,TEN OF HEARTS,JACK OF HEARTS,KNIGHT OF HEARTS,QUEEN OF HEARTS,KING OF HEARTS",
    "RED JOKER,,ACE OF DIAMONDS,TWO OF DIAMONDS,THREE OF DIAMONDS,FOUR OF DIAMONDS,FIVE OF DIAMONDS",
    "SIX OF DIAMONDS,SEVEN OF DIAMONDS,EIGHT OF DIAMONDS,NINE OF DIAMONDS,TEN OF DIAMONDS",
    "JACK OF DIAMONDS,KNIGHT OF DIAMONDS,QUEEN OF DIAMONDS,KING OF DIAMONDS,BLACK JOKER,",
    "ACE OF CLUBS,TWO OF CLUBS,THREE OF CLUBS,FOUR OF CLUBS,FIVE OF CLUBS,SIX OF CLUBS",
    "SEVEN OF CLUBS,EIGHT OF CLUBS,NINE OF CLUBS,TEN OF CLUBS,JACK OF CLUBS,KNIGHT OF CLUBS",
    "QUEEN OF CLUBS,KING OF CLUBS,WHITE JOKER,FOOL"]⟩,
   ⟨0x1f0e1, "PLAYING CARD TRUMP-", ["1,2,3,4,5,6,7,8,9,10,11,12,13,14,15,16,17,18,19,20,21"]⟩,
   ⟨0x1f100, "DIGIT ", ["ZERO FULL STOP,ZERO COMMA,ONE COMMA,TWO COMMA,THREE COMMA,FOUR COMMA",
    "FIVE COMMA,SIX COMMA,SEVEN COMMA,EIGHT COMMA,NINE COMMA"]⟩,
   ⟨0x1f10b, "DINGBAT ", ["CIRCLED SANS-SERIF DIGIT ZERO,NEGATIVE CIRCLED SANS-SERIF DIGIT ZERO"]⟩,
   ⟨0x1f10d, "CIRCLED ", ["ZERO WITH SLASH,ANTICLOCKWISE ARROW,DOLLAR SIGN WITH OVERLAID BACKSLASH"]⟩,
   ⟨0x1f110, "PARENTHESIZED LATIN CAPITAL LETTER ", ["A,B,C,D,E,F,G,H,I,J,K,L,M,N,O,P,Q,R,S,T,U,V,W",
    "X,Y,Z"]⟩,
   ⟨0x1f12a, "", ["TORTOISE SHELL BRACKETED LATIN CAPITAL LETTER S"]⟩,
   ⟨0x1f12b, "CIRCLED ITALIC LATIN CAPITAL LETTER ", ["C,R"]⟩,
   ⟨0x1f12d, "", ["CIRCLED CD,CIRCLED WZ,COPYLEFT SYMBOL"]⟩,
   ⟨0x1f130, "SQUARED LATIN CAPITAL LETTER ", ["A,B,C,D,E,F,G,H,I,J,K,L,M,N,O,P,Q,R,S,T,U,V,W,X,Y,Z"]⟩,
   ⟨0x1f14a, "SQUARED ", ["HV,MV,SD,SS,PPV,WC"]⟩,
   ⟨0x1f150, "NEGATIVE CIRCLED LATIN CAPITAL LETTER ", ["A,B,C,D,E,F,G,H,I,J,K,L,M,N,O,P,Q,R,S,T,U",
    "V,W,X,Y,Z"]⟩,
   ⟨0x1f16a, "RAISED ", ["MC SIGN,MD SIGN,MR SIGN"]⟩,
   ⟨0x1f16d, "CIRCLED ", ["CC,C WITH OVERLAID BACKSLASH,HUMAN FIGURE"]⟩,
   ⟨0x1f170, "NEGATIVE SQUARED LATIN CAPITAL LETTER ", ["A,B,C,D,E,F,G,H,I,J,K,L,M,N,O,P,Q,R,S,T,U",
    "V,W,X,Y,Z"]⟩,
   ⟨0x1f18a, "", ["CROSSED NEGATIVE SQUARED LATIN CAPITAL LETTER P"]⟩,
   ⟨0x1f18b, "NEGATIVE SQUARED ", ["IC,PA,SA,AB,WC"]⟩,
   ⟨0x1f190, "", ["SQUARE DJ"]⟩,
   ⟨0x1f191, "SQUARED ", ["CL,COOL,FREE,ID,NEW,NG,OK,SOS,UP WITH EXCLAMATION MARK,VS,THREE D",
    "SECOND SCREEN,TWO K,FOUR K,EIGHT K,FIVE POINT ONE,SEVEN POINT ONE,TWENTY-TWO POINT TWO,SIXTY P",
    "ONE HUNDRED TWENTY P,LATIN SMALL LETTER D,HC,HDR,HI-RES,LOSSLESS,SHV,UHD,VOD"]⟩,
   ⟨0x1f1ad, "", ["MASK WORK SYMBOL"]⟩,
   ⟨0x1f1e6, "REGIONAL INDICATOR SYMBOL LETTER ", ["A,B,C,D,E,F,G,H,I,J,K,L,M,N,O,P,Q,R,S,T,U,V,W,X",
    "Y,Z"]⟩,
   ⟨0x1f200, "", ["SQUARE HIRAGANA HOKA,SQUARED KATAKANA KOKO,SQUARED KATAKANA SA"]⟩,
   ⟨0x1f210, "SQUARED CJK UNIFIED IDEOGRAPH-", ["624B,5B57,53CC"]⟩,
   ⟨0x1f213, "", ["SQUARED KATAKANA DE"]⟩,
   ⟨0x1f214, "SQUARED CJK UNIFIED IDEOGRAPH-", ["4E8C,591A,89E3,5929,4EA4,6620,7121,6599,524D,5F8C",
    "518D,65B0,521D,7D42,751F,8CA9,58F0,5439,6F14,6295,6355,4E00,4E09,904A,5DE6,4E2D,53F3,6307,8D70",
    "6253,7981,7A7A,5408,6E80,6709,6708,7533,5272,55B6,914D"]⟩,
   ⟨0x1f240, "TORTOISE SHELL BRACKETED CJK UNIFIED IDEOGRAPH-", ["672C,4E09,4E8C,5B89,70B9,6253",
    "76D7,52DD,6557"]⟩,
   ⟨0x1f250, "CIRCLED IDEOGRAPH ", ["ADVANTAGE,ACCEPT"]⟩,
   ⟨0x1f260, "ROUNDED SYMBOL FOR ", ["FU,LU,SHOU,XI,SHUANGXI,CAI"]⟩,
   ⟨0x1f300, "", ["CYCLONE"]⟩,
   ⟨0x1f301, "", ["FOGGY,CLOSED UMBRELLA,NIGHT WITH STARS,SUNRISE OVER MOUNTAINS"]⟩,
   ⟨0x1f305, "", ["SUNRISE,CITYSCAPE AT DUSK,SUNSET OVER BUILDINGS,RAINBOW"]⟩,
   ⟨0x1f309, "", ["BRIDGE AT NIGHT,WATER WAVE,VOLCANO,MILKY WAY"]⟩,
   ⟨0x1f30d, "EARTH GLOBE ", ["EUROPE-AFRICA,AMERICAS,ASIA-AUSTRALIA"]⟩,
   ⟨0x1f310, "", ["GLOBE WITH MERIDIANS,NEW MOON SYMBOL,WAXING CRESCENT MOON SYMBOL",
    "FIRST QUARTER MOON SYMBOL"]⟩,
   ⟨0x1f314, "", ["WAXING GIBBOUS MOON SYMBOL,FULL MOON SYMBOL,WANING GIBBOUS MOON SYMBOL",
    "LAST QUARTER MOON SYMBOL"]⟩,
   ⟨0x1f318, "", ["WANING CRESCENT MOON SYMBOL,CRESCENT MOON,NEW MOON WITH FACE",
    "FIRST QUARTER MOON WITH FACE"]⟩,
   ⟨0x1f31c, "", ["LAST QUARTER MOON WITH FACE,FULL MOON WITH FACE,SUN WITH FACE,GLOWING STAR"]⟩,
   ⟨0x1f320, "", ["SHOOTING STAR,THERMOMETER,BLACK DROPLET,WHITE SUN"]⟩,
   ⟨0x1f324, "WHITE SUN ", ["WITH SMALL CLOUD,BEHIND CLOUD,BEHIND CLOUD WITH RAIN"]⟩,
   ⟨0x1f327, "CLOUD WITH ", ["RAIN,SNOW,LIGHTNING,TORNADO"]⟩,
   ⟨0x1f32b, "", ["FOG,WIND BLOWING FACE,HOT DOG,TACO"]⟩,
   ⟨0x1f32f, "", ["BURRITO,CHESTNUT,SEEDLING,EVERGREEN TREE"]⟩,
   ⟨0x1f333, "", ["DECIDUOUS TREE,PALM TREE,CACTUS,HOT PEPPER"]⟩,
   ⟨0x1f337, "", ["TULIP,CHERRY BLOSSOM,ROSE,HIBISCUS"]⟩,
   ⟨0x1f33b, "", ["SUNFLOWER,BLOSSOM,EAR OF MAIZE,EAR OF RICE"]⟩,
   ⟨0x1f33f, "", ["HERB,FOUR LEAF CLOVER,MAPLE LEAF,FALLEN LEAF"]⟩,
   ⟨0x1f343, "", ["LEAF FLUTTERING IN WIND,MUSHROOM,TOMATO,AUBERGINE"]⟩,
   ⟨0x1f347, "", ["GRAPES,MELON,WATERMELON,TANGERINE"]⟩,
   ⟨0x1f34b, "", ["LEMON,BANANA,PINEAPPLE,RED APPLE"]⟩,
   ⟨0x1f34f, "", ["GREEN APPLE,PEAR,PEACH,CHERRIES"]⟩,
   ⟨0x1f353, "", ["STRAWBERRY,HAMBURGER,SLICE OF PIZZA,MEAT ON BONE"]⟩,
   ⟨0x1f357, "", ["POULTRY LEG,RICE CRACKER,RICE BALL,COOKED RICE"]⟩,
   ⟨0x1f35b, "", ["CURRY AND RICE,STEAMING BOWL,SPAGHETTI,BREAD"]⟩,
   ⟨0x1f35f, "", ["FRENCH FRIES,ROASTED SWEET POTATO,DANGO,ODEN"]⟩,
   ⟨0x1f363, "", ["SUSHI,FRIED SHRIMP,FISH CAKE WITH SWIRL DESIGN,SOFT ICE CREAM"]⟩,
   ⟨0x1f367, "", ["SHAVED ICE,ICE CREAM,DOUGHNUT,COOKIE"]⟩,
   ⟨0x1f36b, "", ["CHOCOLATE BAR,CANDY,LOLLIPOP,CUSTARD"]⟩,
   ⟨0x1f36f, "", ["HONEY POT,SHORTCAKE,BENTO BOX,POT OF FOOD"]⟩,
   ⟨0x1f373, "", ["COOKING,FORK AND KNIFE,TEACUP WITHOUT HANDLE,SAKE BOTTLE AND CUP"]⟩,
   ⟨0x1f377, "", ["WINE GLASS,COCKTAIL GLASS,TROPICAL DRINK,BEER MUG"]⟩,
   ⟨0x1f37b, "", ["CLINKING BEER MUGS,BABY BOTTLE,FORK AND KNIFE WITH PLATE",
    "BOTTLE WITH POPPING CORK"]⟩,
   ⟨0x1f37f, "", ["POPCORN,RIBBON,WRAPPED PRESENT,BIRTHDAY CAKE"]⟩,
   ⟨0x1f383, "", ["JACK-O-LANTERN,CHRISTMAS TREE,FATHER CHRISTMAS,FIREWORKS"]⟩,
   ⟨0x1f387, "", ["FIREWORK SPARKLER,BALLOON,PARTY POPPER,CONFETTI BALL"]⟩,
   ⟨0x1f38b, "", ["TANABATA TREE,CROSSED FLAGS,PINE DECORATION,JAPANESE DOLLS"]⟩,
   ⟨0x1f38f, "", ["CARP STREAMER,WIND CHIME,MOON VIEWING CEREMONY,SCHOOL SATCHEL"]⟩,
   ⟨0x1f393, "", ["GRADUATION CAP,HEART WITH TIP ON THE LEFT,BOUQUET OF FLOWERS,MILITARY MEDAL"]⟩,
   ⟨0x1f397, "", ["REMINDER RIBBON,MUSICAL KEYBOARD WITH JACKS,STUDIO MICROPHONE,LEVEL SLIDER"]⟩,
   ⟨0x1f39b, "", ["CONTROL KNOBS,BEAMED ASCENDING MUSICAL NOTES,BEAMED DESCENDING MUSICAL NOTES",
    "FILM FRAMES"]⟩,
   ⟨0x1f39f, "", ["ADMISSION TICKETS,CAROUSEL HORSE,FERRIS WHEEL,ROLLER COASTER"]⟩,
   ⟨0x1f3a3, "", ["FISHING POLE AND FISH,MICROPHONE,MOVIE CAMERA,CINEMA"]⟩,
   ⟨0x1f3a7, "", ["HEADPHONE,ARTIST PALETTE,TOP HAT,CIRCUS TENT"]⟩,
   ⟨0x1f3ab, "", ["TICKET,CLAPPER BOARD,PERFORMING ARTS,VIDEO GAME"]⟩,
   ⟨0x1f3af, "", ["DIRECT HIT,SLOT MACHINE,BILLIARDS,GAME DIE"]⟩,
   ⟨0x1f3b3, "", ["BOWLING,FLOWER PLAYING CARDS,MUSICAL NOTE,MULTIPLE MUSICAL NOTES"]⟩,
   ⟨0x1f3b7, "", ["SAXOPHONE,GUITAR,MUSICAL KEYBOARD,TRUMPET"]⟩,
   ⟨0x1f3bb, "", ["VIOLIN,MUSICAL SCORE,RUNNING SHIRT WITH SASH,TENNIS RACQUET AND BALL"]⟩,
   ⟨0x1f3bf, "", ["SKI AND SKI BOOT,BASKETBALL AND HOOP,CHEQUERED FLAG,SNOWBOARDER"]⟩,
   ⟨0x1f3c3, "", ["RUNNER,SURFER,SPORTS MEDAL,TROPHY"]⟩,
   ⟨0x1f3c7, "", ["HORSE RACING,AMERICAN FOOTBALL,RUGBY FOOTBALL,SWIMMER"]⟩,
   ⟨0x1f3cb, "", ["WEIGHT LIFTER,GOLFER,RACING MOTORCYCLE,RACING CAR"]⟩,
   ⟨0x1f3cf, "", ["CRICKET BAT AND BALL,VOLLEYBALL,FIELD HOCKEY STICK AND BALL",
    "ICE HOCKEY STICK AND PUCK"]⟩,
   ⟨0x1f3d3, "", ["TABLE TENNIS PADDLE AND BALL,SNOW CAPPED MOUNTAIN,CAMPING,BEACH WITH UMBRELLA"]⟩,
   ⟨0x1f3d7, "", ["BUILDING CONSTRUCTION,HOUSE BUILDINGS,CITYSCAPE,DERELICT HOUSE BUILDING"]⟩,
   ⟨0x1f3db, "", ["CLASSICAL BUILDING,DESERT,DESERT ISLAND,NATIONAL PARK"]⟩,
   ⟨0x1f3df, "", ["STADIUM,HOUSE BUILDING,HOUSE WITH GARDEN,OFFICE BUILDING"]⟩,
   ⟨0x1f3e3, "", ["JAPANESE POST OFFICE,EUROPEAN POST OFFICE,HOSPITAL,BANK"]⟩,
   ⟨0x1f3e7, "", ["AUTOMATED TELLER MACHINE,HOTEL,LOVE HOTEL,CONVENIENCE STORE"]⟩,
   ⟨0x1f3eb, "", ["SCHOOL,DEPARTMENT STORE,FACTORY,IZAKAYA LANTERN"]⟩,
   ⟨0x1f3ef, "", ["JAPANESE CASTLE,EUROPEAN CASTLE,WHITE PENNANT,BLACK PENNANT"]⟩,
   ⟨0x1f3f3, "", ["WAVING WHITE FLAG,WAVING BLACK FLAG,ROSETTE,BLACK ROSETTE"]⟩,
   ⟨0x1f3f7, "", ["LABEL,BADMINTON RACQUET AND SHUTTLECOCK,BOW AND ARROW,AMPHORA"]⟩,
   ⟨0x1f3fb, "EMOJI MODIFIER FITZPATRICK TYPE-", ["1-2,3,4,5,6"]⟩,
   ⟨0x1f400, "", ["RAT,MOUSE"]⟩,
   ⟨0x1f402, "", ["OX,WATER BUFFALO,COW,TIGER"]⟩,
   ⟨0x1f406, "", ["LEOPARD,RABBIT,CAT,DRAGON"]⟩,
   ⟨0x1f40a, "", ["CROCODILE,WHALE,SNAIL,SNAKE"]⟩,
   ⟨0x1f40e, "", ["HORSE,RAM,GOAT,SHEEP"]⟩,
   ⟨0x1f412, "", ["MONKEY,ROOSTER,CHICKEN,DOG"]⟩,
   ⟨0x1f416, "", ["PIG,BOAR,ELEPHANT,OCTOPUS"]⟩,
   ⟨0x1f41a, "", ["SPIRAL SHELL,BUG,ANT,HONEYBEE"]⟩,
   ⟨0x1f41e, "", ["LADY BEETLE,FISH,TROPICAL FISH,BLOWFISH"]⟩,
   ⟨0x1f422, "", ["TURTLE,HATCHING CHICK,BABY CHICK,FRONT-FACING BABY CHICK"]⟩,
   ⟨0x1f426, "", ["BIRD,PENGUIN,KOALA,POODLE"]⟩,
   ⟨0x1f42a, "", ["DROMEDARY CAMEL,BACTRIAN CAMEL,DOLPHIN,MOUSE FACE"]⟩,
   ⟨0x1f42e, "", ["COW FACE,TIGER FACE,RABBIT FACE,CAT FACE"]⟩,
   ⟨0x1f432, "", ["DRAGON FACE,SPOUTING WHALE,HORSE FACE,MONKEY FACE"]⟩,
   ⟨0x1f436, "", ["DOG FACE,PIG FACE,FROG FACE,HAMSTER FACE"]⟩,
   ⟨0x1f43a, "", ["WOLF FACE,BEAR FACE,PANDA FACE,PIG NOSE"]⟩,
   ⟨0x1f43e, "", ["PAW PRINTS,CHIPMUNK,EYES,EYE"]⟩,
   ⟨0x1f442, "", ["EAR,NOSE,MOUTH,TONGUE"]⟩,
   ⟨0x1f446, "WHITE ", ["UP POINTING BACKHAND INDEX,DOWN POINTING BACKHAND INDEX",
    "LEFT POINTING BACKHAND INDEX,RIGHT POINTING BACKHAND INDEX"]⟩,
   ⟨0x1f44a, "", ["FISTED HAND SIGN,WAVING HAND SIGN,OK HAND SIGN,THUMBS UP SIGN"]⟩,
   ⟨0x1f44e, "", ["THUMBS DOWN SIGN,CLAPPING HANDS SIGN,OPEN HANDS SIGN,CROWN"]⟩,
   ⟨0x1f452, "", ["WOMANS HAT,EYEGLASSES,NECKTIE,T-SHIRT"]⟩,
   ⟨0x1f456, "", ["JEANS,DRESS,KIMONO,BIKINI"]⟩,
   ⟨0x1f45a, "", ["WOMANS CLOTHES,PURSE,HANDBAG,POUCH"]⟩,
   ⟨0x1f45e, "", ["MANS SHOE,ATHLETIC SHOE,HIGH-HEELED SHOE,WOMANS SANDAL"]⟩,
   ⟨0x1f462, "", ["WOMANS BOOTS,FOOTPRINTS,BUST IN SILHOUETTE,BUSTS IN SILHOUETTE"]⟩,
   ⟨0x1f466, "", ["BOY,GIRL,MAN,WOMAN"]⟩,
   ⟨0x1f46a, "", ["FAMILY,MAN AND WOMAN HOLDING HANDS,TWO MEN HOLDING HANDS,TWO WOMEN HOLDING HANDS"]⟩,
   ⟨0x1f46e, "", ["POLICE OFFICER,WOMAN WITH BUNNY EARS,BRIDE WITH VEIL,PERSON WITH BLOND HAIR"]⟩,
   ⟨0x1f472, "MAN WITH ", ["GUA PI MAO,TURBAN"]⟩,
   ⟨0x1f474, "", ["OLDER MAN,OLDER WOMAN,BABY,CONSTRUCTION WORKER"]⟩,
   ⟨0x1f478, "", ["PRINCESS,JAPANESE OGRE,JAPANESE GOBLIN,GHOST"]⟩,
   ⟨0x1f47c, "", ["BABY ANGEL,EXTRATERRESTRIAL ALIEN,ALIEN MONSTER,IMP"]⟩,
   ⟨0x1f480, "", ["SKULL,INFORMATION DESK PERSON,GUARDSMAN,DANCER"]⟩,
   ⟨0x1f484, "", ["LIPSTICK,NAIL POLISH,FACE MASSAGE,HAIRCUT"]⟩,
   ⟨0x1f488, "", ["BARBER POLE,SYRINGE,PILL,KISS MARK"]⟩,
   ⟨0x1f48c, "", ["LOVE LETTER,RING,GEM STONE,KISS"]⟩,
   ⟨0x1f490, "", ["BOUQUET,COUPLE WITH HEART,WEDDING,BEATING HEART"]⟩,
   ⟨0x1f494, "", ["BROKEN HEART,TWO HEARTS,SPARKLING HEART,GROWING HEART"]⟩,
   ⟨0x1f498, "", ["HEART WITH ARROW,BLUE HEART,GREEN HEART,YELLOW HEART"]⟩,
   ⟨0x1f49c, "", ["PURPLE HEART,HEART WITH RIBBON,REVOLVING HEARTS,HEART DECORATION"]⟩,
   ⟨0x1f4a0, "", ["DIAMOND SHAPE WITH A DOT INSIDE,ELECTRIC LIGHT BULB,ANGER SYMBOL,BOMB"]⟩,
   ⟨0x1f4a4, "", ["SLEEPING SYMBOL,COLLISION SYMBOL,SPLASHING SWEAT SYMBOL,DROPLET"]⟩,
   ⟨0x1f4a8, "", ["DASH SYMBOL,PILE OF POO,FLEXED BICEPS,DIZZY SYMBOL"]⟩,
   ⟨0x1f4ac, "", ["SPEECH BALLOON,THOUGHT BALLOON,WHITE FLOWER,HUNDRED POINTS SYMBOL"]⟩,
   ⟨0x1f4b0, "", ["MONEY BAG,CURRENCY EXCHANGE,HEAVY DOLLAR SIGN,CREDIT CARD"]⟩,
   ⟨0x1f4b4, "BANKNOTE WITH ", ["YEN SIGN,DOLLAR SIGN,EURO SIGN,POUND SIGN"]⟩,
   ⟨0x1f4b8, "", ["MONEY WITH WINGS,CHART WITH UPWARDS TREND AND YEN SIGN,SEAT,PERSONAL COMPUTER"]⟩,
   ⟨0x1f4bc, "", ["BRIEFCASE,MINIDISC,FLOPPY DISK,OPTICAL DISC"]⟩,
   ⟨0x1f4c0, "", ["DVD,FILE FOLDER,OPEN FILE FOLDER,PAGE WITH CURL"]⟩,
   ⟨0x1f4c4, "", ["PAGE FACING UP,CALENDAR,TEAR-OFF CALENDAR,CARD INDEX"]⟩,
   ⟨0x1f4c8, "CHART WITH ", ["UPWARDS TREND,DOWNWARDS TREND"]⟩,
   ⟨0x1f4ca, "", ["BAR CHART,CLIPBOARD,PUSHPIN,ROUND PUSHPIN"]⟩,
   ⟨0x1f4ce, "", ["PAPERCLIP,STRAIGHT RULER,TRIANGULAR RULER,BOOKMARK TABS"]⟩,
   ⟨0x1f4d2, "", ["LEDGER,NOTEBOOK,NOTEBOOK WITH DECORATIVE COVER,CLOSED BOOK"]⟩,
   ⟨0x1f4d6, "", ["OPEN BOOK,GREEN BOOK,BLUE BOOK,ORANGE BOOK"]⟩,
   ⟨0x1f4da, "", ["BOOKS,NAME BADGE,SCROLL,MEMO"]⟩,
   ⟨0x1f4de, "", ["TELEPHONE RECEIVER,PAGER,FAX MACHINE,SATELLITE ANTENNA"]⟩,
   ⟨0x1f4e2, "", ["PUBLIC ADDRESS LOUDSPEAKER,CHEERING MEGAPHONE,OUTBOX TRAY,INBOX TRAY"]⟩,
   ⟨0x1f4e6, "", ["PACKAGE,E-MAIL SYMBOL,INCOMING ENVELOPE,ENVELOPE WITH DOWNWARDS ARROW ABOVE"]⟩,
   ⟨0x1f4ea, "CLOSED MAILBOX WITH ", ["LOWERED FLAG,RAISED FLAG"]⟩,
   ⟨0x1f4ec, "OPEN MAILBOX WITH ", ["RAISED FLAG,LOWERED FLAG"]⟩,
   ⟨0x1f4ee, "", ["POSTBOX,POSTAL HORN,NEWSPAPER"]⟩,
   ⟨0x1f4f1, "", ["MOBILE PHONE,MOBILE PHONE WITH RIGHTWARDS ARROW AT LEFT,VIBRATION MODE",
    "MOBILE PHONE OFF"]⟩,
   ⟨0x1f4f5, "", ["NO MOBILE PHONES,ANTENNA WITH BARS,CAMERA,CAMERA WITH FLASH"]⟩,
   ⟨0x1f4f9, "", ["VIDEO CAMERA,TELEVISION,RADIO,VIDEOCASSETTE"]⟩,
   ⟨0x1f4fd, "", ["FILM PROJECTOR,PORTABLE STEREO,PRAYER BEADS,TWISTED RIGHTWARDS ARROWS"]⟩,
   ⟨0x1f501, "CLOCKWISE RIGHTWARDS AND LEFTWARDS OPEN CIRCLE ", ["ARROWS",
    "ARROWS WITH CIRCLED ONE OVERLAY"]⟩,
   ⟨0x1f503, "", ["CLOCKWISE DOWNWARDS AND UPWARDS OPEN CIRCLE ARROWS",
    "ANTICLOCKWISE DOWNWARDS AND UPWARDS OPEN CIRCLE ARROWS,LOW BRIGHTNESS SYMBOL",
    "HIGH BRIGHTNESS SYMBOL"]⟩,
   ⟨0x1f507, "", ["SPEAKER WITH CANCELLATION STROKE,SPEAKER,SPEAKER WITH ONE SOUND WAVE",
    "SPEAKER WITH THREE SOUND WAVES,BATTERY"]⟩,
   ⟨0x1f50c, "", ["ELECTRIC PLUG,LEFT-POINTING MAGNIFYING GLASS,RIGHT-POINTING MAGNIFYING GLASS",
    "LOCK WITH INK PEN"]⟩,
   ⟨0x1f510, "", ["CLOSED LOCK WITH KEY,KEY,LOCK,OPEN LOCK"]⟩,
   ⟨0x1f514, "", ["BELL,BELL WITH CANCELLATION STROKE,BOOKMARK,LINK SYMBOL"]⟩,
   ⟨0x1f518, "", ["RADIO BUTTON,BACK WITH LEFTWARDS ARROW ABOVE,END WITH LEFTWARDS ARROW ABOVE",
    "ON WITH EXCLAMATION MARK WITH LEFT RIGHT ARROW ABOVE"]⟩,
   ⟨0x1f51c, "", ["SOON WITH RIGHTWARDS ARROW ABOVE,TOP WITH UPWARDS ARROW ABOVE",
    "NO ONE UNDER EIGHTEEN SYMBOL,KEYCAP TEN"]⟩,
   ⟨0x1f520, "INPUT SYMBOL FOR ", ["LATIN CAPITAL LETTERS,LATIN SMALL LETTERS,NUMBERS,SYMBOLS",
    "LATIN LETTERS"]⟩,
   ⟨0x1f525, "", ["FIRE,ELECTRIC TORCH,WRENCH"]⟩,
   ⟨0x1f528, "", ["HAMMER,NUT AND BOLT,HOCHO,PISTOL"]⟩,
   ⟨0x1f52c, "", ["MICROSCOPE,TELESCOPE,CRYSTAL BALL,SIX POINTED STAR WITH MIDDLE DOT"]⟩,
   ⟨0x1f530, "", ["JAPANESE SYMBOL FOR BEGINNER,TRIDENT EMBLEM,BLACK SQUARE BUTTON",
    "WHITE SQUARE BUTTON"]⟩,
   ⟨0x1f534, "LARGE ", ["RED CIRCLE,BLUE CIRCLE,ORANGE DIAMOND,BLUE DIAMOND"]⟩,
   ⟨0x1f538, "", ["SMALL ORANGE DIAMOND,SMALL BLUE DIAMOND,UP-POINTING RED TRIANGLE",
    "DOWN-POINTING RED TRIANGLE"]⟩,
   ⟨0x1f53c, "", ["UP-POINTING SMALL RED TRIANGLE,DOWN-POINTING SMALL RED TRIANGLE",
    "LOWER RIGHT SHADOWED WHITE CIRCLE,UPPER RIGHT SHADOWED WHITE CIRCLE"]⟩,
   ⟨0x1f540, "", ["CIRCLED CROSS POMMEE,CROSS POMMEE WITH HALF-CIRCLE BELOW,CROSS POMMEE",
    "NOTCHED LEFT SEMICIRCLE WITH THREE DOTS"]⟩,
   ⟨0x1f544, "", ["NOTCHED RIGHT SEMICIRCLE WITH THREE DOTS,SYMBOL FOR MARKS CHAPTER",
    "WHITE LATIN CROSS,HEAVY LATIN CROSS"]⟩,
   ⟨0x1f548, "", ["CELTIC CROSS,OM SYMBOL,DOVE OF PEACE,KAABA"]⟩,
   ⟨0x1f54c, "", ["MOSQUE,SYNAGOGUE,MENORAH WITH NINE BRANCHES,BOWL OF HYGIEIA"]⟩,
   ⟨0x1f550, "CLOCK FACE ", ["ONE OCLOCK,TWO OCLOCK,THREE OCLOCK,FOUR OCLOCK,FIVE OCLOCK,SIX OCLOCK",
    "SEVEN OCLOCK,EIGHT OCLOCK,NINE OCLOCK,TEN OCLOCK,ELEVEN OCLOCK,TWELVE OCLOCK,ONE-THIRTY",
    "TWO-THIRTY,THREE-THIRTY,FOUR-THIRTY,FIVE-THIRTY,SIX-THIRTY,SEVEN-THIRTY,EIGHT-THIRTY",
    "NINE-THIRTY,TEN-THIRTY,ELEVEN-THIRTY,TWELVE-THIRTY"]⟩,
   ⟨0x1f568, "RIGHT ", ["SPEAKER,SPEAKER WITH ONE SOUND WAVE,SPEAKER WITH THREE SOUND WAVES"]⟩,
   ⟨0x1f56b, "", ["BULLHORN,BULLHORN WITH SOUND WAVES"]⟩,
   ⟨0x1f56d, "", ["RINGING BELL,BOOK,CANDLE,MANTELPIECE CLOCK"]⟩,
   ⟨0x1f571, "", ["BLACK SKULL AND CROSSBONES,NO PIRACY,HOLE,MAN IN BUSINESS SUIT LEVITATING"]⟩,
   ⟨0x1f575, "", ["SLEUTH OR SPY,DARK SUNGLASSES,SPIDER,SPIDER WEB"]⟩,
   ⟨0x1f579, "", ["JOYSTICK,MAN DANCING,LEFT HAND TELEPHONE RECEIVER,TELEPHONE RECEIVER WITH PAGE"]⟩,
   ⟨0x1f57d, "", ["RIGHT HAND TELEPHONE RECEIVER,WHITE TOUCHTONE TELEPHONE",
    "BLACK TOUCHTONE TELEPHONE,TELEPHONE ON TOP OF MODEM"]⟩,
   ⟨0x1f581, "", ["CLAMSHELL MOBILE PHONE,BACK OF ENVELOPE,STAMPED ENVELOPE,ENVELOPE WITH LIGHTNING"]⟩,
   ⟨0x1f585, "", ["FLYING ENVELOPE,PEN OVER STAMPED ENVELOPE,LINKED PAPERCLIPS,BLACK PUSHPIN"]⟩,
   ⟨0x1f589, "LOWER LEFT ", ["PENCIL,BALLPOINT PEN,FOUNTAIN PEN,PAINTBRUSH,CRAYON"]⟩,
   ⟨0x1f58e, "", ["LEFT WRITING HAND,TURNED OK HAND SIGN,RAISED HAND WITH FINGERS SPLAYED"]⟩,
   ⟨0x1f591, "REVERSED ", ["RAISED HAND WITH FINGERS SPLAYED,THUMBS UP SIGN,THUMBS DOWN SIGN",
    "VICTORY HAND,HAND WITH MIDDLE FINGER EXTENDED"]⟩,
   ⟨0x1f596, "", ["RAISED HAND WITH PART BETWEEN MIDDLE AND RING FINGERS",
    "WHITE DOWN POINTING LEFT HAND INDEX"]⟩,
   ⟨0x1f598, "SIDEWAYS ", ["WHITE LEFT POINTING INDEX,WHITE RIGHT POINTING INDEX",
    "BLACK LEFT POINTING INDEX,BLACK RIGHT POINTING INDEX"]⟩,
   ⟨0x1f59c, "BLACK ", ["LEFT POINTING BACKHAND INDEX,RIGHT POINTING BACKHAND INDEX"]⟩,
   ⟨0x1f59e, "SIDEWAYS ", ["WHITE UP POINTING INDEX,WHITE DOWN POINTING INDEX",
    "BLACK UP POINTING INDEX,BLACK DOWN POINTING INDEX"]⟩,
   ⟨0x1f5a2, "BLACK ", ["UP POINTING BACKHAND INDEX,DOWN POINTING BACKHAND INDEX,HEART"]⟩,
   ⟨0x1f5a5, "", ["DESKTOP COMPUTER,KEYBOARD AND MOUSE,THREE NETWORKED COMPUTERS,PRINTER"]⟩,
   ⟨0x1f5a9, "", ["POCKET CALCULATOR,BLACK HARD SHELL FLOPPY DISK,WHITE HARD SHELL FLOPPY DISK",
    "SOFT SHELL FLOPPY DISK"]⟩,
   ⟨0x1f5ad, "", ["TAPE CARTRIDGE,WIRED KEYBOARD,ONE BUTTON MOUSE,TWO BUTTON MOUSE"]⟩,
   ⟨0x1f5b1, "", ["THREE BUTTON MOUSE,TRACKBALL,OLD PERSONAL COMPUTER,HARD DISK"]⟩,
   ⟨0x1f5b5, "", ["SCREEN,PRINTER ICON,FAX ICON,OPTICAL DISC ICON"]⟩,
   ⟨0x1f5b9, "DOCUMENT WITH ", ["TEXT,TEXT AND PICTURE,PICTURE"]⟩,
   ⟨0x1f5bc, "FRAME WITH ", ["PICTURE,TILES,AN X"]⟩,
   ⟨0x1f5bf, "", ["BLACK FOLDER,FOLDER,OPEN FOLDER,CARD INDEX DIVIDERS"]⟩,
   ⟨0x1f5c3, "", ["CARD FILE BOX,FILE CABINET,EMPTY NOTE,EMPTY NOTE PAGE"]⟩,
   ⟨0x1f5c7, "", ["EMPTY NOTE PAD,NOTE,NOTE PAGE,NOTE PAD"]⟩,
   ⟨0x1f5cb, "EMPTY ", ["DOCUMENT,PAGE,PAGES"]⟩,
   ⟨0x1f5ce, "", ["DOCUMENT,PAGE,PAGES,WASTEBASKET"]⟩,
   ⟨0x1f5d2, "SPIRAL ", ["NOTE PAD,CALENDAR PAD"]⟩,
   ⟨0x1f5d4, "", ["DESKTOP WINDOW,MINIMIZE,MAXIMIZE,OVERLAP"]⟩,
   ⟨0x1f5d8, "", ["CLOCKWISE RIGHT AND LEFT SEMICIRCLE ARROWS,CANCELLATION X",
    "INCREASE FONT SIZE SYMBOL,DECREASE FONT SIZE SYMBOL"]⟩,
   ⟨0x1f5dc, "", ["COMPRESSION,OLD KEY,ROLLED-UP NEWSPAPER,PAGE WITH CIRCLED TEXT"]⟩,
   ⟨0x1f5e0, "", ["STOCK CHART,DAGGER KNIFE,LIPS,SPEAKING HEAD IN SILHOUETTE"]⟩,
   ⟨0x1f5e4, "THREE RAYS ", ["ABOVE,BELOW,LEFT,RIGHT"]⟩,
   ⟨0x1f5e8, "", ["LEFT SPEECH BUBBLE,RIGHT SPEECH BUBBLE,TWO SPEECH BUBBLES"]⟩,
   ⟨0x1f5eb, "", ["THREE SPEECH BUBBLES,LEFT THOUGHT BUBBLE,RIGHT THOUGHT BUBBLE,LEFT ANGER BUBBLE"]⟩,
   ⟨0x1f5ef, "", ["RIGHT ANGER BUBBLE,MOOD BUBBLE,LIGHTNING MOOD BUBBLE,LIGHTNING MOOD"]⟩,
   ⟨0x1f5f3, "BALLOT ", ["BOX WITH BALLOT,SCRIPT X,BOX WITH SCRIPT X,BOLD SCRIPT X",
    "BOX WITH BOLD SCRIPT X"]⟩,
   ⟨0x1f5f8, "", ["LIGHT CHECK MARK,BALLOT BOX WITH BOLD CHECK,WORLD MAP"]⟩,
   ⟨0x1f5fb, "", ["MOUNT FUJI,TOKYO TOWER,STATUE OF LIBERTY,SILHOUETTE OF JAPAN"]⟩,
   ⟨0x1f5ff, "", ["MOYAI,GRINNING FACE,GRINNING FACE WITH SMILING EYES,FACE WITH TEARS OF JOY"]⟩,
   ⟨0x1f603, "SMILING FACE WITH ", ["OPEN MOUTH,OPEN MOUTH AND SMILING EYES",
    "OPEN MOUTH AND COLD SWEAT,OPEN MOUTH AND TIGHTLY-CLOSED EYES,HALO,HORNS"]⟩,
   ⟨0x1f609, "", ["WINKING FACE,SMILING FACE WITH SMILING EYES,FACE SAVOURING DELICIOUS FOOD",
    "RELIEVED FACE"]⟩,
   ⟨0x1f60d, "SMILING FACE WITH ", ["HEART-SHAPED EYES,SUNGLASSES"]⟩,
   ⟨0x1f60f, "", ["SMIRKING FACE,NEUTRAL FACE,EXPRESSIONLESS FACE,UNAMUSED FACE"]⟩,
   ⟨0x1f613, "", ["FACE WITH COLD SWEAT,PENSIVE FACE,CONFUSED FACE,CONFOUNDED FACE"]⟩,
   ⟨0x1f617, "", ["KISSING FACE,FACE THROWING A KISS,KISSING FACE WITH SMILING EYES",
    "KISSING FACE WITH CLOSED EYES"]⟩,
   ⟨0x1f61b, "FACE WITH STUCK-OUT ", ["TONGUE,TONGUE AND WINKING EYE,TONGUE AND TIGHTLY-CLOSED EYES"]⟩,
   ⟨0x1f61e, "", ["DISAPPOINTED FACE,WORRIED FACE,ANGRY FACE,POUTING FACE"]⟩,
   ⟨0x1f622, "", ["CRYING FACE,PERSEVERING FACE,FACE WITH LOOK OF TRIUMPH",
    "DISAPPOINTED BUT RELIEVED FACE"]⟩,
   ⟨0x1f626, "", ["FROWNING FACE WITH OPEN MOUTH,ANGUISHED FACE,FEARFUL FACE,WEARY FACE"]⟩,
   ⟨0x1f62a, "", ["SLEEPY FACE,TIRED FACE,GRIMACING FACE,LOUDLY CRYING FACE"]⟩,
   ⟨0x1f62e, "", ["FACE WITH OPEN MOUTH,HUSHED FACE,FACE WITH OPEN MOUTH AND COLD SWEAT",
    "FACE SCREAMING IN FEAR"]⟩,
   ⟨0x1f632, "", ["ASTONISHED FACE,FLUSHED FACE,SLEEPING FACE,DIZZY FACE"]⟩,
   ⟨0x1f636, "", ["FACE WITHOUT MOUTH,FACE WITH MEDICAL MASK,GRINNING CAT FACE WITH SMILING EYES",
    "CAT FACE WITH TEARS OF JOY"]⟩,
   ⟨0x1f63a, "SMILING CAT FACE WITH ", ["OPEN MOUTH,HEART-SHAPED EYES"]⟩,
   ⟨0x1f63c, "", ["CAT FACE WITH WRY SMILE,KISSING CAT FACE WITH CLOSED EYES,POUTING CAT FACE",
    "CRYING CAT FACE"]⟩,
   ⟨0x1f640, "", ["WEARY CAT FACE,SLIGHTLY FROWNING FACE,SLIGHTLY SMILING FACE,UPSIDE-DOWN FACE"]⟩,
   ⟨0x1f644, "", ["FACE WITH ROLLING EYES,FACE WITH NO GOOD GESTURE,FACE WITH OK GESTURE",
    "PERSON BOWING DEEPLY"]⟩,
   ⟨0x1f648, "", ["SEE-NO-EVIL MONKEY,HEAR-NO-EVIL MONKEY,SPEAK-NO-EVIL MONKEY",
    "HAPPY PERSON RAISING ONE HAND"]⟩,
   ⟨0x1f64c, "PERSON ", ["RAISING BOTH HANDS IN CELEBRATION,FROWNING,WITH POUTING FACE",
    "WITH FOLDED HANDS"]⟩,
   ⟨0x1f650, "", ["NORTH WEST POINTING LEAF,SOUTH WEST POINTING LEAF,NORTH EAST POINTING LEAF",
    "SOUTH EAST POINTING LEAF"]⟩,
   ⟨0x1f654, "TURNED ", ["NORTH WEST POINTING LEAF,SOUTH WEST POINTING LEAF",
    "NORTH EAST POINTING LEAF,SOUTH EAST POINTING LEAF"]⟩,
   ⟨0x1f658, "", ["NORTH WEST POINTING VINE LEAF,SOUTH WEST POINTING VINE LEAF",
    "NORTH EAST POINTING VINE LEAF,SOUTH EAST POINTING VINE LEAF"]⟩,
   ⟨0x1f65c, "HEAVY ", ["NORTH WEST POINTING VINE LEAF,SOUTH WEST POINTING VINE LEAF",
    "NORTH EAST POINTING VINE LEAF,SOUTH EAST POINTING VINE LEAF"]⟩,
   ⟨0x1f660, "", ["NORTH WEST POINTING BUD,SOUTH WEST POINTING BUD,NORTH EAST POINTING BUD",
    "SOUTH EAST POINTING BUD"]⟩,
   ⟨0x1f664, "HEAVY ", ["NORTH WEST POINTING BUD,SOUTH WEST POINTING BUD,NORTH EAST POINTING BUD",
    "SOUTH EAST POINTING BUD"]⟩,
   ⟨0x1f668, "HOLLOW QUILT SQUARE ", ["ORNAMENT,ORNAMENT IN BLACK SQUARE"]⟩,
   ⟨0x1f66a, "", ["SOLID QUILT SQUARE ORNAMENT,SOLID QUILT SQUARE ORNAMENT IN BLACK SQUARE",
    "LEFTWARDS ROCKET,UPWARDS ROCKET"]⟩,
   ⟨0x1f66e, "", ["RIGHTWARDS ROCKET,DOWNWARDS ROCKET,SCRIPT LIGATURE ET ORNAMENT",
    "HEAVY SCRIPT LIGATURE ET ORNAMENT"]⟩,
   ⟨0x1f672, "", ["LIGATURE OPEN ET ORNAMENT,HEAVY LIGATURE OPEN ET ORNAMENT",
    "HEAVY AMPERSAND ORNAMENT,SWASH AMPERSAND ORNAMENT"]⟩,
   ⟨0x1f676, "SANS-SERIF HEAVY ", ["DOUBLE TURNED COMMA QUOTATION MARK ORNAMENT",
    "DOUBLE COMMA QUOTATION MARK ORNAMENT,LOW DOUBLE COMMA QUOTATION MARK ORNAMENT"]⟩,
   ⟨0x1f679, "", ["HEAVY INTERROBANG ORNAMENT,SANS-SERIF INTERROBANG ORNAMENT",
    "HEAVY SANS-SERIF INTERROBANG ORNAMENT"]⟩,
   ⟨0x1f67c, "", ["VERY HEAVY SOLIDUS,VERY HEAVY REVERSE SOLIDUS,CHECKER BOARD",
    "REVERSE CHECKER BOARD"]⟩,
   ⟨0x1f680, "", ["ROCKET,HELICOPTER,STEAM LOCOMOTIVE,RAILWAY CAR"]⟩,
   ⟨0x1f684, "", ["HIGH-SPEED TRAIN,HIGH-SPEED TRAIN WITH BULLET NOSE,TRAIN,METRO"]⟩,
   ⟨0x1f688, "", ["LIGHT RAIL,STATION,TRAM,TRAM CAR"]⟩,
   ⟨0x1f68c, "", ["BUS,ONCOMING BUS,TROLLEYBUS,BUS STOP"]⟩,
   ⟨0x1f690, "", ["MINIBUS,AMBULANCE,FIRE ENGINE,POLICE CAR"]⟩,
   ⟨0x1f694, "", ["ONCOMING POLICE CAR,TAXI,ONCOMING TAXI,AUTOMOBILE"]⟩,
   ⟨0x1f698, "", ["ONCOMING AUTOMOBILE,RECREATIONAL VEHICLE,DELIVERY TRUCK,ARTICULATED LORRY"]⟩,
   ⟨0x1f69c, "", ["TRACTOR,MONORAIL,MOUNTAIN RAILWAY,SUSPENSION RAILWAY"]⟩,
   ⟨0x1f6a0, "", ["MOUNTAIN CABLEWAY,AERIAL TRAMWAY,SHIP,ROWBOAT"]⟩,
   ⟨0x1f6a4, "", ["SPEEDBOAT,HORIZONTAL TRAFFIC LIGHT,VERTICAL TRAFFIC LIGHT,CONSTRUCTION SIGN"]⟩,
   ⟨0x1f6a8, "", ["POLICE CARS REVOLVING LIGHT,TRIANGULAR FLAG ON POST,DOOR,NO ENTRY SIGN"]⟩,
   ⟨0x1f6ac, "", ["SMOKING SYMBOL,NO SMOKING SYMBOL,PUT LITTER IN ITS PLACE SYMBOL",
    "DO NOT LITTER SYMBOL"]⟩,
   ⟨0x1f6b0, "", ["POTABLE WATER SYMBOL,NON-POTABLE WATER SYMBOL,BICYCLE,NO BICYCLES"]⟩,
   ⟨0x1f6b4, "", ["BICYCLIST,MOUNTAIN BICYCLIST,PEDESTRIAN,NO PEDESTRIANS"]⟩,
   ⟨0x1f6b8, "", ["CHILDREN CROSSING,MENS SYMBOL,WOMENS SYMBOL,RESTROOM"]⟩,
   ⟨0x1f6bc, "", ["BABY SYMBOL,TOILET,WATER CLOSET,SHOWER"]⟩,
   ⟨0x1f6c0, "", ["BATH,BATHTUB,PASSPORT CONTROL,CUSTOMS"]⟩,
   ⟨0x1f6c4, "", ["BAGGAGE CLAIM,LEFT LUGGAGE,TRIANGLE WITH ROUNDED CORNERS,PROHIBITED SIGN"]⟩,
   ⟨0x1f6c8, "", ["CIRCLED INFORMATION SOURCE,BOYS SYMBOL,GIRLS SYMBOL,COUCH AND LAMP"]⟩,
   ⟨0x1f6cc, "", ["SLEEPING ACCOMMODATION,SHOPPING BAGS,BELLHOP BELL,BED"]⟩,
   ⟨0x1f6d0, "", ["PLACE OF WORSHIP,OCTAGONAL SIGN,SHOPPING TROLLEY,STUPA"]⟩,
   ⟨0x1f6d4, "", ["PAGODA,HINDU TEMPLE,HUT,ELEVATOR"]⟩,
   ⟨0x1f6dd, "", ["PLAYGROUND SLIDE"]⟩,
   ⟨0x1f6de, "", ["WHEEL,RING BUOY,HAMMER AND WRENCH,SHIELD"]⟩,
   ⟨0x1f6e2, "", ["OIL DRUM,MOTORWAY,RAILWAY TRACK,MOTOR BOAT"]⟩,
   ⟨0x1f6e6, "UP-POINTING ", ["MILITARY AIRPLANE,AIRPLANE,SMALL AIRPLANE"]⟩,
   ⟨0x1f6e9, "", ["SMALL AIRPLANE,NORTHEAST-POINTING AIRPLANE,AIRPLANE DEPARTURE,AIRPLANE ARRIVING"]⟩,
   ⟨0x1f6f0, "", ["SATELLITE"]⟩,
   ⟨0x1f6f1, "", ["ONCOMING FIRE ENGINE,DIESEL LOCOMOTIVE,PASSENGER SHIP,SCOOTER"]⟩,
   ⟨0x1f6f5, "", ["MOTOR SCOOTER,CANOE,SLED,FLYING SAUCER"]⟩,
   ⟨0x1f6f9, "", ["SKATEBOARD,AUTO RICKSHAW,PICKUP TRUCK,ROLLER SKATE"]⟩,
   ⟨0x1f700, "ALCHEMICAL SYMBOL FOR ", ["QUINTESSENCE,AIR,FIRE,EARTH,WATER,AQUAFORTIS,AQUA REGIA",
    "AQUA REGIA-2,AQUA VITAE,AQUA VITAE-2,VINEGAR,VINEGAR-2,VINEGAR-3,SULFUR,PHILOSOPHERS SULFUR",
    "BLACK SULFUR,MERCURY SUBLIMATE,MERCURY SUBLIMATE-2,MERCURY SUBLIMATE-3,CINNABAR,SALT,NITRE",
    "VITRIOL,VITRIOL-2,ROCK SALT,ROCK SALT-2,GOLD,SILVER,IRON ORE,IRON ORE-2,CROCUS OF IRON",
    "REGULUS OF IRON,COPPER ORE,IRON-COPPER ORE,SUBLIMATE OF COPPER,CROCUS OF COPPER",
    "CROCUS OF COPPER-2,COPPER ANTIMONIATE,SALT OF COPPER ANTIMONIATE,SUBLIMATE OF SALT OF COPPER",
    "VERDIGRIS,TIN ORE,LEAD ORE,ANTIMONY ORE,SUBLIMATE OF ANTIMONY,SALT OF ANTIMONY",
    "SUBLIMATE OF SALT OF ANTIMONY,VINEGAR OF ANTIMONY,REGULUS OF ANTIMONY,REGULUS OF ANTIMONY-2",
    "REGULUS,REGULUS-2,REGULUS-3,REGULUS-4,ALKALI,ALKALI-2,MARCASITE,SAL-AMMONIAC,ARSENIC,REALGAR",
    "REALGAR-2,AURIPIGMENT,BISMUTH ORE,TARTAR,TARTAR-2,QUICK LIME,BORAX,BORAX-2,BORAX-3,ALUM,OIL",
    "SPIRIT,TINCTURE,GUM,WAX,POWDER,CALX,TUTTY,CAPUT MORTUUM,SCEPTER OF JOVE,CADUCEUS,TRIDENT",
    "STARRED TRIDENT,LODESTONE,SOAP,URINE,HORSE DUNG,ASHES,POT ASHES,BRICK,POWDERED BRICK,AMALGAM",
    "STRATUM SUPER STRATUM,STRATUM SUPER STRATUM-2,SUBLIMATION,PRECIPITATE,DISTILL,DISSOLVE",
    "DISSOLVE-2,PURIFY,PUTREFACTION,CRUCIBLE,CRUCIBLE-2,CRUCIBLE-3,CRUCIBLE-4,CRUCIBLE-5,ALEMBIC",
    "BATH OF MARY,BATH OF VAPOURS,RETORT,HOUR,NIGHT,DAY-NIGHT,MONTH,HALF DRAM,HALF OUNCE"]⟩,
   ⟨0x1f780, "BLACK ", ["LEFT-POINTING ISOSCELES RIGHT TRIANGLE",
    "UP-POINTING ISOSCELES RIGHT TRIANGLE,RIGHT-POINTING ISOSCELES RIGHT TRIANGLE",
    "DOWN-POINTING ISOSCELES RIGHT TRIANGLE,SLIGHTLY SMALL CIRCLE"]⟩,
   ⟨0x1f785, "", ["MEDIUM BOLD WHITE CIRCLE,BOLD WHITE CIRCLE,HEAVY WHITE CIRCLE"]⟩,
   ⟨0x1f788, "", ["VERY HEAVY WHITE CIRCLE,EXTREMELY HEAVY WHITE CIRCLE",
    "WHITE CIRCLE CONTAINING BLACK SMALL CIRCLE,ROUND TARGET"]⟩,
   ⟨0x1f78c, "", ["BLACK TINY SQUARE,BLACK SLIGHTLY SMALL SQUARE,LIGHT WHITE SQUARE",
    "MEDIUM WHITE SQUARE"]⟩,
   ⟨0x1f790, "", ["BOLD WHITE SQUARE,HEAVY WHITE SQUARE,VERY HEAVY WHITE SQUARE",
    "EXTREMELY HEAVY WHITE SQUARE"]⟩,
   ⟨0x1f794, "WHITE SQUARE CONTAINING BLACK ", ["VERY SMALL SQUARE,MEDIUM SQUARE"]⟩,
   ⟨0x1f796, "", ["SQUARE TARGET,BLACK TINY DIAMOND,BLACK VERY SMALL DIAMOND",
    "BLACK MEDIUM SMALL DIAMOND"]⟩,
   ⟨0x1f79a, "WHITE DIAMOND CONTAINING BLACK ", ["VERY SMALL DIAMOND,MEDIUM DIAMOND"]⟩,
   ⟨0x1f79c, "", ["DIAMOND TARGET,BLACK TINY LOZENGE,BLACK VERY SMALL LOZENGE"]⟩,
   ⟨0x1f79f, "", ["BLACK MEDIUM SMALL LOZENGE,WHITE LOZENGE CONTAINING BLACK SMALL LOZENGE",
    "THIN GREEK CROSS,LIGHT GREEK CROSS"]⟩,
   ⟨0x1f7a3, "", ["MEDIUM GREEK CROSS,BOLD GREEK CROSS,VERY BOLD GREEK CROSS,VERY HEAVY GREEK CROSS"]⟩,
   ⟨0x1f7a7, "", ["EXTREMELY HEAVY GREEK CROSS,THIN SALTIRE,LIGHT SALTIRE,MEDIUM SALTIRE"]⟩,
   ⟨0x1f7ab, "", ["BOLD SALTIRE,HEAVY SALTIRE,VERY HEAVY SALTIRE,EXTREMELY HEAVY SALTIRE"]⟩,
   ⟨0x1f7af, "", ["LIGHT FIVE SPOKED ASTERISK,MEDIUM FIVE SPOKED ASTERISK,BOLD FIVE SPOKED ASTERISK",
    "HEAVY FIVE SPOKED ASTERISK"]⟩,
   ⟨0x1f7b3, "", ["VERY HEAVY FIVE SPOKED ASTERISK,EXTREMELY HEAVY FIVE SPOKED ASTERISK",
    "LIGHT SIX SPOKED ASTERISK,MEDIUM SIX SPOKED ASTERISK"]⟩,
   ⟨0x1f7b7, "", ["BOLD SIX SPOKED ASTERISK,HEAVY SIX SPOKED ASTERISK",
    "VERY HEAVY SIX SPOKED ASTERISK,EXTREMELY HEAVY SIX SPOKED ASTERISK"]⟩,
   ⟨0x1f7bb, "", ["LIGHT EIGHT SPOKED ASTERISK,MEDIUM EIGHT SPOKED ASTERISK",
    "BOLD EIGHT SPOKED ASTERISK,HEAVY EIGHT SPOKED ASTERISK"]⟩,
   ⟨0x1f7bf, "", ["VERY HEAVY EIGHT SPOKED ASTERISK,LIGHT THREE POINTED BLACK STAR",
    "MEDIUM THREE POINTED BLACK STAR,THREE POINTED BLACK STAR"]⟩,
   ⟨0x1f7c3, "", ["MEDIUM THREE POINTED PINWHEEL STAR,LIGHT FOUR POINTED BLACK STAR",
    "MEDIUM FOUR POINTED BLACK STAR,FOUR POINTED BLACK STAR"]⟩,
   ⟨0x1f7c7, "", ["MEDIUM FOUR POINTED PINWHEEL STAR,REVERSE LIGHT FOUR POINTED PINWHEEL STAR",
    "LIGHT FIVE POINTED BLACK STAR,HEAVY FIVE POINTED BLACK STAR"]⟩,
   ⟨0x1f7cb, "", ["MEDIUM SIX POINTED BLACK STAR,HEAVY SIX POINTED BLACK STAR",
    "SIX POINTED PINWHEEL STAR,MEDIUM EIGHT POINTED BLACK STAR"]⟩,
   ⟨0x1f7cf, "", ["HEAVY EIGHT POINTED BLACK STAR,VERY HEAVY EIGHT POINTED BLACK STAR",
    "HEAVY EIGHT POINTED PINWHEEL STAR,LIGHT TWELVE POINTED BLACK STAR"]⟩,
   ⟨0x1f7d3, "HEAVY TWELVE POINTED ", ["BLACK STAR,PINWHEEL STAR"]⟩,
   ⟨0x1f7d5, "", ["CIRCLED TRIANGLE,NEGATIVE CIRCLED TRIANGLE,CIRCLED SQUARE",
    "NEGATIVE CIRCLED SQUARE"]⟩,
   ⟨0x1f7e0, "LARGE ", ["ORANGE CIRCLE,YELLOW CIRCLE,GREEN CIRCLE,PURPLE CIRCLE,BROWN CIRCLE",
    "RED SQUARE,BLUE SQUARE,ORANGE SQUARE,YELLOW SQUARE,GREEN SQUARE,PURPLE SQUARE,BROWN SQUARE"]⟩,
   ⟨0x1f7f0, "", ["HEAVY EQUALS SIGN"]⟩,
   ⟨0x1f800, "", ["LEFTWARDS ARROW WITH SMALL TRIANGLE ARROWHEAD",
    "UPWARDS ARROW WITH SMALL TRIANGLE ARROWHEAD,RIGHTWARDS ARROW WITH SMALL TRIANGLE ARROWHEAD",
    "DOWNWARDS ARROW WITH SMALL TRIANGLE ARROWHEAD"]⟩,
   ⟨0x1f804, "", ["LEFTWARDS ARROW WITH MEDIUM TRIANGLE ARROWHEAD",
    "UPWARDS ARROW WITH MEDIUM TRIANGLE ARROWHEAD,RIGHTWARDS ARROW WITH MEDIUM TRIANGLE ARROWHEAD",
    "DOWNWARDS ARROW WITH MEDIUM TRIANGLE ARROWHEAD"]⟩,
   ⟨0x1f808, "", ["LEFTWARDS ARROW WITH LARGE TRIANGLE ARROWHEAD",
    "UPWARDS ARROW WITH LARGE TRIANGLE ARROWHEAD,RIGHTWARDS ARROW WITH LARGE TRIANGLE ARROWHEAD",
    "DOWNWARDS ARROW WITH LARGE TRIANGLE ARROWHEAD"]⟩,
   ⟨0x1f810, "", ["LEFTWARDS ARROW WITH SMALL EQUILATERAL ARROWHEAD",
    "UPWARDS ARROW WITH SMALL EQUILATERAL ARROWHEAD",
    "RIGHTWARDS ARROW WITH SMALL EQUILATERAL ARROWHEAD",
    "DOWNWARDS ARROW WITH SMALL EQUILATERAL ARROWHEAD"]⟩,
   ⟨0x1f814, "", ["LEFTWARDS ARROW WITH EQUILATERAL ARROWHEAD",
    "UPWARDS ARROW WITH EQUILATERAL ARROWHEAD,RIGHTWARDS ARROW WITH EQUILATERAL ARROWHEAD",
    "DOWNWARDS ARROW WITH EQUILATERAL ARROWHEAD"]⟩,
   ⟨0x1f818, "HEAVY ", ["LEFTWARDS ARROW WITH EQUILATERAL ARROWHEAD",
    "UPWARDS ARROW WITH EQUILATERAL ARROWHEAD,RIGHTWARDS ARROW WITH EQUILATERAL ARROWHEAD",
    "DOWNWARDS ARROW WITH EQUILATERAL ARROWHEAD,LEFTWARDS ARROW WITH LARGE EQUILATERAL ARROWHEAD",
    "UPWARDS ARROW WITH LARGE EQUILATERAL ARROWHEAD",
    "RIGHTWARDS ARROW WITH LARGE EQUILATERAL ARROWHEAD",
    "DOWNWARDS ARROW WITH LARGE EQUILATERAL ARROWHEAD"]⟩,
   ⟨0x1f820, "", ["LEFTWARDS TRIANGLE-HEADED ARROW WITH NARROW SHAFT",
    "UPWARDS TRIANGLE-HEADED ARROW WITH NARROW SHAFT",
    "RIGHTWARDS TRIANGLE-HEADED ARROW WITH NARROW SHAFT",
    "DOWNWARDS TRIANGLE-HEADED ARROW WITH NARROW SHAFT"]⟩,
   ⟨0x1f824, "", ["LEFTWARDS TRIANGLE-HEADED ARROW WITH MEDIUM SHAFT",
    "UPWARDS TRIANGLE-HEADED ARROW WITH MEDIUM SHAFT",
    "RIGHTWARDS TRIANGLE-HEADED ARROW WITH MEDIUM SHAFT",
    "DOWNWARDS TRIANGLE-HEADED ARROW WITH MEDIUM SHAFT"]⟩,
   ⟨0x1f828, "", ["LEFTWARDS TRIANGLE-HEADED ARROW WITH BOLD SHAFT",
    "UPWARDS TRIANGLE-HEADED ARROW WITH BOLD SHAFT,RIGHTWARDS TRIANGLE-HEADED ARROW WITH BOLD SHAFT",
    "DOWNWARDS TRIANGLE-HEADED ARROW WITH BOLD SHAFT"]⟩,
   ⟨0x1f82c, "", ["LEFTWARDS TRIANGLE-HEADED ARROW WITH HEAVY SHAFT",
    "UPWARDS TRIANGLE-HEADED ARROW WITH HEAVY SHAFT",
    "RIGHTWARDS TRIANGLE-HEADED ARROW WITH HEAVY SHAFT",
    "DOWNWARDS TRIANGLE-HEADED ARROW WITH HEAVY SHAFT"]⟩,
   ⟨0x1f830, "", ["LEFTWARDS TRIANGLE-HEADED ARROW WITH VERY HEAVY SHAFT",
    "UPWARDS TRIANGLE-HEADED ARROW WITH VERY HEAVY SHAFT",
    "RIGHTWARDS TRIANGLE-HEADED ARROW WITH VERY HEAVY SHAFT",
    "DOWNWARDS TRIANGLE-HEADED ARROW WITH VERY HEAVY SHAFT"]⟩,
   ⟨0x1f834, "", ["LEFTWARDS FINGER-POST ARROW,UPWARDS FINGER-POST ARROW",
    "RIGHTWARDS FINGER-POST ARROW,DOWNWARDS FINGER-POST ARROW"]⟩,
   ⟨0x1f838, "", ["LEFTWARDS SQUARED ARROW,UPWARDS SQUARED ARROW,RIGHTWARDS SQUARED ARROW",
    "DOWNWARDS SQUARED ARROW"]⟩,
   ⟨0x1f83c, "", ["LEFTWARDS COMPRESSED ARROW,UPWARDS COMPRESSED ARROW,RIGHTWARDS COMPRESSED ARROW",
    "DOWNWARDS COMPRESSED ARROW"]⟩,
   ⟨0x1f840, "", ["LEFTWARDS HEAVY COMPRESSED ARROW,UPWARDS HEAVY COMPRESSED ARROW",
    "RIGHTWARDS HEAVY COMPRESSED ARROW,DOWNWARDS HEAVY COMPRESSED ARROW"]⟩,
   ⟨0x1f844, "", ["LEFTWARDS HEAVY ARROW,UPWARDS HEAVY ARROW,RIGHTWARDS HEAVY ARROW",
    "DOWNWARDS HEAVY ARROW"]⟩,
   ⟨0x1f850, "", ["LEFTWARDS SANS-SERIF ARROW,UPWARDS SANS-SERIF ARROW,RIGHTWARDS SANS-SERIF ARROW",
    "DOWNWARDS SANS-SERIF ARROW"]⟩,
   ⟨0x1f854, "NORTH ", ["WEST SANS-SERIF ARROW,EAST SANS-SERIF ARROW"]⟩,
   ⟨0x1f856, "", ["SOUTH EAST SANS-SERIF ARROW,SOUTH WEST SANS-SERIF ARROW",
    "LEFT RIGHT SANS-SERIF ARROW,UP DOWN SANS-SERIF ARROW"]⟩,
   ⟨0x1f860, "WIDE-HEADED ", ["LEFTWARDS LIGHT BARB ARROW,UPWARDS LIGHT BARB ARROW",
    "RIGHTWARDS LIGHT BARB ARROW,DOWNWARDS LIGHT BARB ARROW,NORTH WEST LIGHT BARB ARROW",
    "NORTH EAST LIGHT BARB ARROW,SOUTH EAST LIGHT BARB ARROW,SOUTH WEST LIGHT BARB ARROW",
    "LEFTWARDS BARB ARROW,UPWARDS BARB ARROW,RIGHTWARDS BARB ARROW,DOWNWARDS BARB ARROW",
    "NORTH WEST BARB ARROW,NORTH EAST BARB ARROW,SOUTH EAST BARB ARROW,SOUTH WEST BARB ARROW",
    "LEFTWARDS MEDIUM BARB ARROW,UPWARDS MEDIUM BARB ARROW,RIGHTWARDS MEDIUM BARB ARROW",
    "DOWNWARDS MEDIUM BARB ARROW,NORTH WEST MEDIUM BARB ARROW,NORTH EAST MEDIUM BARB ARROW",
    "SOUTH EAST MEDIUM BARB ARROW,SOUTH WEST MEDIUM BARB ARROW,LEFTWARDS HEAVY BARB ARROW",
    "UPWARDS HEAVY BARB ARROW,RIGHTWARDS HEAVY BARB ARROW,DOWNWARDS HEAVY BARB ARROW",
    "NORTH WEST HEAVY BARB ARROW,NORTH EAST HEAVY BARB ARROW,SOUTH EAST HEAVY BARB ARROW",
    "SOUTH WEST HEAVY BARB ARROW,LEFTWARDS VERY HEAVY BARB ARROW,UPWARDS VERY HEAVY BARB ARROW",
    "RIGHTWARDS VERY HEAVY BARB ARROW,DOWNWARDS VERY HEAVY BARB ARROW",
    "NORTH WEST VERY HEAVY BARB ARROW,NORTH EAST VERY HEAVY BARB ARROW",
    "SOUTH EAST VERY HEAVY BARB ARROW,SOUTH WEST VERY HEAVY BARB ARROW"]⟩,
   ⟨0x1f890, "", ["LEFTWARDS TRIANGLE ARROWHEAD,UPWARDS TRIANGLE ARROWHEAD",
    "RIGHTWARDS TRIANGLE ARROWHEAD,DOWNWARDS TRIANGLE ARROWHEAD"]⟩,
   ⟨0x1f894, "", ["LEFTWARDS WHITE ARROW WITHIN TRIANGLE ARROWHEAD",
    "UPWARDS WHITE ARROW WITHIN TRIANGLE ARROWHEAD,RIGHTWARDS WHITE ARROW WITHIN TRIANGLE ARROWHEAD",
    "DOWNWARDS WHITE ARROW WITHIN TRIANGLE ARROWHEAD"]⟩,
   ⟨0x1f898, "", ["LEFTWARDS ARROW WITH NOTCHED TAIL,UPWARDS ARROW WITH NOTCHED TAIL",
    "RIGHTWARDS ARROW WITH NOTCHED TAIL,DOWNWARDS ARROW WITH NOTCHED TAIL"]⟩,
   ⟨0x1f89c, "HEAVY ARROW SHAFT WIDTH ", ["ONE,TWO THIRDS,ONE HALF,ONE THIRD"]⟩,
   ⟨0x1f8a0, "", ["LEFTWARDS BOTTOM-SHADED WHITE ARROW,RIGHTWARDS BOTTOM SHADED WHITE ARROW",
    "LEFTWARDS TOP SHADED WHITE ARROW,RIGHTWARDS TOP SHADED WHITE ARROW"]⟩,
   ⟨0x1f8a4, "", ["LEFTWARDS LEFT-SHADED WHITE ARROW,RIGHTWARDS RIGHT-SHADED WHITE ARROW",
    "LEFTWARDS RIGHT-SHADED WHITE ARROW,RIGHTWARDS LEFT-SHADED WHITE ARROW"]⟩,
   ⟨0x1f8a8, "", ["LEFTWARDS BACK-TILTED SHADOWED WHITE ARROW",
    "RIGHTWARDS BACK-TILTED SHADOWED WHITE ARROW,LEFTWARDS FRONT-TILTED SHADOWED WHITE ARROW",
    "RIGHTWARDS FRONT-TILTED SHADOWED WHITE ARROW"]⟩,
   ⟨0x1f8ac, "WHITE ARROW SHAFT WIDTH ", ["ONE,TWO THIRDS"]⟩,
   ⟨0x1f8b0, "ARROW POINTING ", ["UPWARDS THEN NORTH WEST,RIGHTWARDS THEN CURVING SOUTH WEST"]⟩,
   ⟨0x1f900, "CIRCLED CROSS ", ["FORMEE WITH FOUR DOTS,FORMEE WITH TWO DOTS,FORMEE"]⟩,
   ⟨0x1f903, "LEFT HALF CIRCLE WITH ", ["FOUR DOTS,THREE DOTS,TWO DOTS,DOT"]⟩,
   ⟨0x1f907, "", ["LEFT HALF CIRCLE"]⟩,
   ⟨0x1f908, "DOWNWARD FACING ", ["HOOK,NOTCHED HOOK,HOOK WITH DOT,NOTCHED HOOK WITH DOT"]⟩,
   ⟨0x1f90c, "", ["PINCHED FINGERS,WHITE HEART,BROWN HEART,PINCHING HAND"]⟩,
   ⟨0x1f910, "", ["ZIPPER-MOUTH FACE,MONEY-MOUTH FACE,FACE WITH THERMOMETER,NERD FACE"]⟩,
   ⟨0x1f914, "", ["THINKING FACE,FACE WITH HEAD-BANDAGE,ROBOT FACE,HUGGING FACE"]⟩,
   ⟨0x1f918, "", ["SIGN OF THE HORNS,CALL ME HAND,RAISED BACK OF HAND,LEFT-FACING FIST"]⟩,
   ⟨0x1f91c, "", ["RIGHT-FACING FIST,HANDSHAKE,HAND WITH INDEX AND MIDDLE FINGERS CROSSED",
    "I LOVE YOU HAND SIGN"]⟩,
   ⟨0x1f920, "", ["FACE WITH COWBOY HAT,CLOWN FACE,NAUSEATED FACE,ROLLING ON THE FLOOR LAUGHING"]⟩,
   ⟨0x1f924, "", ["DROOLING FACE,LYING FACE,FACE PALM,SNEEZING FACE"]⟩,
   ⟨0x1f928, "", ["FACE WITH ONE EYEBROW RAISED,GRINNING FACE WITH STAR EYES",
    "GRINNING FACE WITH ONE LARGE AND ONE SMALL EYE,FACE WITH FINGER COVERING CLOSED LIPS"]⟩,
   ⟨0x1f92c, "", ["SERIOUS FACE WITH SYMBOLS COVERING MOUTH",
    "SMILING FACE WITH SMILING EYES AND HAND COVERING MOUTH,FACE WITH OPEN MOUTH VOMITING",
    "SHOCKED FACE WITH EXPLODING HEAD"]⟩,
   ⟨0x1f930, "", ["PREGNANT WOMAN,BREAST-FEEDING,PALMS UP TOGETHER,SELFIE"]⟩,
   ⟨0x1f934, "", ["PRINCE,MAN IN TUXEDO,MOTHER CHRISTMAS,SHRUG"]⟩,
   ⟨0x1f938, "", ["PERSON DOING CARTWHEEL,JUGGLING,FENCER,MODERN PENTATHLON"]⟩,
   ⟨0x1f93c, "", ["WRESTLERS,WATER POLO,HANDBALL,DIVING MASK"]⟩,
   ⟨0x1f940, "", ["WILTED FLOWER,DRUM WITH DRUMSTICKS,CLINKING GLASSES,TUMBLER GLASS"]⟩,
   ⟨0x1f944, "", ["SPOON,GOAL NET,RIFLE,FIRST PLACE MEDAL"]⟩,
   ⟨0x1f948, "", ["SECOND PLACE MEDAL,THIRD PLACE MEDAL,BOXING GLOVE,MARTIAL ARTS UNIFORM"]⟩,
   ⟨0x1f94c, "", ["CURLING STONE,LACROSSE STICK AND BALL,SOFTBALL,FLYING DISC"]⟩,
   ⟨0x1f950, "", ["CROISSANT,AVOCADO,CUCUMBER,BACON"]⟩,
   ⟨0x1f954, "", ["POTATO,CARROT,BAGUETTE BREAD,GREEN SALAD"]⟩,
   ⟨0x1f958, "", ["SHALLOW PAN OF FOOD,STUFFED FLATBREAD,EGG,GLASS OF MILK"]⟩,
   ⟨0x1f95c, "", ["PEANUTS,KIWIFRUIT,PANCAKES,DUMPLING"]⟩,
   ⟨0x1f960, "", ["FORTUNE COOKIE,TAKEOUT BOX,CHOPSTICKS,BOWL WITH SPOON"]⟩,
   ⟨0x1f964, "", ["CUP WITH STRAW,COCONUT,BROCCOLI,PIE"]⟩,
   ⟨0x1f968, "", ["PRETZEL,CUT OF MEAT,SANDWICH,CANNED FOOD"]⟩,
   ⟨0x1f96c, "", ["LEAFY GREEN,MANGO,MOON CAKE,BAGEL"]⟩,
   ⟨0x1f970, "", ["SMILING FACE WITH SMILING EYES AND THREE HEARTS,YAWNING FACE",
    "SMILING FACE WITH TEAR,FACE WITH PARTY HORN AND PARTY HAT"]⟩,
   ⟨0x1f974, "", ["FACE WITH UNEVEN EYES AND WAVY MOUTH,OVERHEATED FACE,FREEZING FACE,NINJA"]⟩,
   ⟨0x1f978, "", ["DISGUISED FACE,FACE HOLDING BACK TEARS,FACE WITH PLEADING EYES,SARI"]⟩,
   ⟨0x1f97c, "", ["LAB COAT,GOGGLES,HIKING BOOT,FLAT SHOE"]⟩,
   ⟨0x1f980, "", ["CRAB,LION FACE,SCORPION,TURKEY"]⟩,
   ⟨0x1f984, "", ["UNICORN FACE,EAGLE,DUCK,BAT"]⟩,
   ⟨0x1f988, "", ["SHARK,OWL,FOX FACE,BUTTERFLY"]⟩,
   ⟨0x1f98c, "", ["DEER,GORILLA,LIZARD,RHINOCEROS"]⟩,
   ⟨0x1f990, "", ["SHRIMP,SQUID,GIRAFFE FACE,ZEBRA FACE"]⟩,
   ⟨0x1f994, "", ["HEDGEHOG,SAUROPOD,T-REX,CRICKET"]⟩,
   ⟨0x1f998, "", ["KANGAROO,LLAMA,PEACOCK,HIPPOPOTAMUS"]⟩,
   ⟨0x1f99c, "", ["PARROT,RACCOON,LOBSTER,MOSQUITO"]⟩,
   ⟨0x1f9a0, "", ["MICROBE,BADGER,SWAN,MAMMOTH"]⟩,
   ⟨0x1f9a4, "", ["DODO,SLOTH,OTTER,ORANGUTAN"]⟩,
   ⟨0x1f9a8, "", ["SKUNK,FLAMINGO,OYSTER,BEAVER"]⟩,
   ⟨0x1f9ac, "", ["BISON,SEAL,GUIDE DOG,PROBING CANE"]⟩,
   ⟨0x1f9b0, "EMOJI COMPONENT ", ["RED HAIR,CURLY HAIR,BALD,WHITE HAIR"]⟩,
   ⟨0x1f9b4, "", ["BONE,LEG,FOOT,TOOTH"]⟩,
   ⟨0x1f9b8, "", ["SUPERHERO,SUPERVILLAIN,SAFETY VEST,EAR WITH HEARING AID"]⟩,
   ⟨0x1f9bc, "", ["MOTORIZED WHEELCHAIR,MANUAL WHEELCHAIR,MECHANICAL ARM,MECHANICAL LEG",
    "CHEESE WEDGE"]⟩,
   ⟨0x1f9c1, "", ["CUPCAKE,SALT SHAKER,BEVERAGE BOX,GARLIC"]⟩,
   ⟨0x1f9c5, "", ["ONION,FALAFEL,WAFFLE,BUTTER"]⟩,
   ⟨0x1f9c9, "", ["MATE DRINK,ICE CUBE,BUBBLE TEA,TROLL"]⟩,
   ⟨0x1f9cd, "", ["STANDING PERSON,KNEELING PERSON,DEAF PERSON,FACE WITH MONOCLE"]⟩,
   ⟨0x1f9d1, "", ["ADULT,CHILD,OLDER ADULT,BEARDED PERSON"]⟩,
   ⟨0x1f9d5, "PERSON ", ["WITH HEADSCARF,IN STEAMY ROOM,CLIMBING,IN LOTUS POSITION"]⟩,
   ⟨0x1f9d9, "", ["MAGE,FAIRY,VAMPIRE"]⟩,
   ⟨0x1f9dc, "", ["MERPERSON,ELF,GENIE,ZOMBIE"]⟩,
   ⟨0x1f9e0, "", ["BRAIN,ORANGE HEART,BILLED CAP,SCARF"]⟩,
   ⟨0x1f9e4, "", ["GLOVES,COAT,SOCKS,RED GIFT ENVELOPE"]⟩,
   ⟨0x1f9e8, "", ["FIRECRACKER,JIGSAW PUZZLE PIECE,TEST TUBE,PETRI DISH"]⟩,
   ⟨0x1f9ec, "", ["DNA DOUBLE HELIX,COMPASS,ABACUS,FIRE EXTINGUISHER"]⟩,
   ⟨0x1f9f0, "", ["TOOLBOX,BRICK,MAGNET,LUGGAGE"]⟩,
   ⟨0x1f9f4, "", ["LOTION BOTTLE,SPOOL OF THREAD,BALL OF YARN,SAFETY PIN"]⟩,
   ⟨0x1f9f8, "", ["TEDDY BEAR,BROOM,BASKET,ROLL OF PAPER"]⟩,
   ⟨0x1f9fc, "", ["BAR OF SOAP,SPONGE,RECEIPT,NAZAR AMULET"]⟩,
   ⟨0x1fa00, "NEUTRAL CHESS ", ["KING,QUEEN,ROOK,BISHOP,KNIGHT,PAWN"]⟩,
   ⟨0x1fa06, "", ["WHITE CHESS KNIGHT ROTATED FORTY-FIVE DEGREES",
    "BLACK CHESS KNIGHT ROTATED FORTY-FIVE DEGREES,NEUTRAL CHESS KNIGHT ROTATED FORTY-FIVE DEGREES"]⟩,
   ⟨0x1fa09, "WHITE CHESS ", ["KING ROTATED NINETY DEGREES,QUEEN ROTATED NINETY DEGREES",
    "ROOK ROTATED NINETY DEGREES,BISHOP ROTATED NINETY DEGREES,KNIGHT ROTATED NINETY DEGREES",
    "PAWN ROTATED NINETY DEGREES"]⟩,
   ⟨0x1fa0f, "BLACK CHESS ", ["KING ROTATED NINETY DEGREES,QUEEN ROTATED NINETY DEGREES",
    "ROOK ROTATED NINETY DEGREES,BISHOP ROTATED NINETY DEGREES,KNIGHT ROTATED NINETY DEGREES",
    "PAWN ROTATED NINETY DEGREES"]⟩,
   ⟨0x1fa15, "NEUTRAL CHESS ", ["KING ROTATED NINETY DEGREES,QUEEN ROTATED NINETY DEGREES",
    "ROOK ROTATED NINETY DEGREES,BISHOP ROTATED NINETY DEGREES,KNIGHT ROTATED NINETY DEGREES",
    "PAWN ROTATED NINETY DEGREES"]⟩,
   ⟨0x1fa1b, "", ["WHITE CHESS KNIGHT ROTATED ONE HUNDRED THIRTY-FIVE DEGREES",
    "BLACK CHESS KNIGHT ROTATED ONE HUNDRED THIRTY-FIVE DEGREES",
    "NEUTRAL CHESS KNIGHT ROTATED ONE HUNDRED THIRTY-FIVE DEGREES"]⟩,
   ⟨0x1fa1e, "WHITE CHESS TURNED ", ["KING,QUEEN,ROOK,BISHOP,KNIGHT,PAWN"]⟩,
   ⟨0x1fa24, "BLACK CHESS TURNED ", ["KING,QUEEN,ROOK,BISHOP,KNIGHT,PAWN"]⟩,
   ⟨0x1fa2a, "NEUTRAL CHESS TURNED ", ["KING,QUEEN,ROOK,BISHOP,KNIGHT,PAWN"]⟩,
   ⟨0x1fa30, "", ["WHITE CHESS KNIGHT ROTATED TWO HUNDRED TWENTY-FIVE DEGREES",
    "BLACK CHESS KNIGHT ROTATED TWO HUNDRED TWENTY-FIVE DEGREES",
    "NEUTRAL CHESS KNIGHT ROTATED TWO HUNDRED TWENTY-FIVE DEGREES"]⟩,
   ⟨0x1fa33, "WHITE CHESS ", ["KING ROTATED TWO HUNDRED SEVENTY DEGREES",
    "QUEEN ROTATED TWO HUNDRED SEVENTY DEGREES,ROOK ROTATED TWO HUNDRED SEVENTY DEGREES",
    "BISHOP ROTATED TWO HUNDRED SEVENTY DEGREES,KNIGHT ROTATED TWO HUNDRED SEVENTY DEGREES",
    "PAWN ROTATED TWO HUNDRED SEVENTY DEGREES"]⟩,
   ⟨0x1fa39, "BLACK CHESS ", ["KING ROTATED TWO HUNDRED SEVENTY DEGREES",
    "QUEEN ROTATED TWO HUNDRED SEVENTY DEGREES,ROOK ROTATED TWO HUNDRED SEVENTY DEGREES",
    "BISHOP ROTATED TWO HUNDRED SEVENTY DEGREES,KNIGHT ROTATED TWO HUNDRED SEVENTY DEGREES",
    "PAWN ROTATED TWO HUNDRED SEVENTY DEGREES"]⟩,
   ⟨0x1fa3f, "NEUTRAL CHESS ", ["KING ROTATED TWO HUNDRED SEVENTY DEGREES",
    "QUEEN ROTATED TWO HUNDRED SEVENTY DEGREES,ROOK ROTATED TWO HUNDRED SEVENTY DEGREES",
    "BISHOP ROTATED TWO HUNDRED SEVENTY DEGREES,KNIGHT ROTATED TWO HUNDRED SEVENTY DEGREES",
    "PAWN ROTATED TWO HUNDRED SEVENTY DEGREES"]⟩,
   ⟨0x1fa45, "", ["WHITE CHESS KNIGHT ROTATED THREE HUNDRED FIFTEEN DEGREES"]⟩,
   ⟨0x1fa46, "", ["BLACK CHESS KNIGHT ROTATED THREE HUNDRED FIFTEEN DEGREES",
    "NEUTRAL CHESS KNIGHT ROTATED THREE HUNDRED FIFTEEN DEGREES,WHITE CHESS EQUIHOPPER",
    "BLACK CHESS EQUIHOPPER"]⟩,
   ⟨0x1fa4a, "", ["NEUTRAL CHESS EQUIHOPPER,WHITE CHESS EQUIHOPPER ROTATED NINETY DEGREES",
    "BLACK CHESS EQUIHOPPER ROTATED NINETY DEGREES,NEUTRAL CHESS EQUIHOPPER ROTATED NINETY DEGREES"]⟩,
   ⟨0x1fa4e, "WHITE CHESS KNIGHT-", ["QUEEN,ROOK,BISHOP"]⟩,
   ⟨0x1fa51, "BLACK CHESS KNIGHT-", ["QUEEN,ROOK,BISHOP"]⟩,
   ⟨0x1fa60, "XIANGQI RED ", ["GENERAL,MANDARIN,ELEPHANT,HORSE,CHARIOT,CANNON,SOLDIER"]⟩,
   ⟨0x1fa67, "XIANGQI BLACK ", ["GENERAL,MANDARIN,ELEPHANT,HORSE,CHARIOT,CANNON,SOLDIER"]⟩,
   ⟨0x1fa70, "", ["BALLET SHOES"]⟩,
   ⟨0x1fa71, "", ["ONE-PIECE SWIMSUIT,BRIEFS,SHORTS,THONG SANDAL"]⟩,
   ⟨0x1fa78, "", ["DROP OF BLOOD"]⟩,
   ⟨0x1fa79, "", ["ADHESIVE BANDAGE,STETHOSCOPE,X-RAY,CRUTCH"]⟩,
   ⟨0x1fa80, "", ["YO-YO,KITE,PARACHUTE"]⟩,
   ⟨0x1fa83, "", ["BOOMERANG,MAGIC WAND,PINATA,NESTING DOLLS"]⟩,
   ⟨0x1fa90, "", ["RINGED PLANET"]⟩,
   ⟨0x1fa91, "", ["CHAIR,RAZOR,AXE,DIYA LAMP"]⟩,
   ⟨0x1fa95, "", ["BANJO,MILITARY HELMET,ACCORDION,LONG DRUM"]⟩,
   ⟨0x1fa99, "", ["COIN,CARPENTRY SAW,SCREWDRIVER,LADDER"]⟩,
   ⟨0x1fa9d, "", ["HOOK,MIRROR,WINDOW,PLUNGER"]⟩,
   ⟨0x1faa1, "", ["SEWING NEEDLE,KNOT,BUCKET,MOUSE TRAP"]⟩,
   ⟨0x1faa5, "", ["TOOTHBRUSH,HEADSTONE,PLACARD,ROCK"]⟩,
   ⟨0x1faa9, "", ["MIRROR BALL,IDENTIFICATION CARD,LOW BATTERY,HAMSA"]⟩,
   ⟨0x1fab0, "", ["FLY,WORM,BEETLE"]⟩,
   ⟨0x1fab3, "", ["COCKROACH,POTTED PLANT,WOOD,FEATHER"]⟩,
   ⟨0x1fab7, "", ["LOTUS,CORAL,EMPTY NEST,NEST WITH EGGS"]⟩,
   ⟨0x1fac0, "", ["ANATOMICAL HEART,LUNGS"]⟩,
   ⟨0x1fac2, "", ["PEOPLE HUGGING,PREGNANT MAN,PREGNANT PERSON,PERSON WITH CROWN"]⟩,
   ⟨0x1fad0, "", ["BLUEBERRIES,BELL PEPPER"]⟩,
   ⟨0x1fad2, "", ["OLIVE,FLATBREAD,TAMALE,FONDUE"]⟩,
   ⟨0x1fad6, "", ["TEAPOT,POURING LIQUID,BEANS,JAR"]⟩,
   ⟨0x1fae0, "", ["MELTING FACE,SALUTING FACE,FACE WITH OPEN EYES AND HAND OVER MOUTH",
    "FACE WITH PEEKING EYE"]⟩,
   ⟨0x1fae4, "", ["FACE WITH DIAGONAL MOUTH,DOTTED LINE FACE,BITING LIP,BUBBLES"]⟩,
   ⟨0x1faf0, "", ["HAND WITH INDEX FINGER AND THUMB CROSSED,RIGHTWARDS HAND,LEFTWARDS HAND"]⟩,
   ⟨0x1faf3, "", ["PALM DOWN HAND,PALM UP HAND,INDEX POINTING AT THE VIEWER,HEART HANDS"]⟩,
   ⟨0x1fb00, "BLOCK SEXTANT-", ["1,2,12,3,13,23,123,4,14,24,124,34,134,234,1234,5,15,25,125,35,235",
    "1235,45,145,245,1245,345,1345,2345,12345,6,16,26,126,36,136,236,1236,46,146,1246,346,1346,2346",
    "12346,56,156,256,1256,356,1356,2356,12356,456,1456,2456,12456,3456,13456,23456"]⟩,
   ⟨0x1fb3c, "LOWER LEFT BLOCK DIAGONAL ", ["LOWER MIDDLE LEFT TO LOWER CENTRE",
    "LOWER MIDDLE LEFT TO LOWER RIGHT,UPPER MIDDLE LEFT TO LOWER CENTRE",
    "UPPER MIDDLE LEFT TO LOWER RIGHT,UPPER LEFT TO LOWER CENTRE"]⟩,
   ⟨0x1fb41, "LOWER RIGHT BLOCK DIAGONAL UPPER MIDDLE LEFT TO UPPER ", ["CENTRE,RIGHT"]⟩,
   ⟨0x1fb43, "LOWER RIGHT BLOCK DIAGONAL LOWER ", ["MIDDLE LEFT TO UPPER CENTRE",
    "MIDDLE LEFT TO UPPER RIGHT,LEFT TO UPPER CENTRE,MIDDLE LEFT TO UPPER MIDDLE RIGHT",
    "CENTRE TO LOWER MIDDLE RIGHT,LEFT TO LOWER MIDDLE RIGHT,CENTRE TO UPPER MIDDLE RIGHT",
    "LEFT TO UPPER MIDDLE RIGHT,CENTRE TO UPPER RIGHT"]⟩,
   ⟨0x1fb4c, "LOWER LEFT BLOCK DIAGONAL UPPER ", ["CENTRE TO UPPER MIDDLE RIGHT",
    "LEFT TO UPPER MIDDLE RIGHT,CENTRE TO LOWER MIDDLE RIGHT,LEFT TO LOWER MIDDLE RIGHT",
    "CENTRE TO LOWER RIGHT,MIDDLE LEFT TO LOWER MIDDLE RIGHT"]⟩,
   ⟨0x1fb52, "UPPER RIGHT BLOCK DIAGONAL ", ["LOWER MIDDLE LEFT TO LOWER CENTRE",
    "LOWER MIDDLE LEFT TO LOWER RIGHT,UPPER MIDDLE LEFT TO LOWER CENTRE",
    "UPPER MIDDLE LEFT TO LOWER RIGHT,UPPER LEFT TO LOWER CENTRE"]⟩,
   ⟨0x1fb57, "UPPER LEFT BLOCK DIAGONAL UPPER MIDDLE LEFT TO UPPER ", ["CENTRE,RIGHT"]⟩,
   ⟨0x1fb59, "UPPER LEFT BLOCK DIAGONAL LOWER ", ["MIDDLE LEFT TO UPPER CENTRE",
    "MIDDLE LEFT TO UPPER RIGHT,LEFT TO UPPER CENTRE,MIDDLE LEFT TO UPPER MIDDLE RIGHT",
    "CENTRE TO LOWER MIDDLE RIGHT,LEFT TO LOWER MIDDLE RIGHT,CENTRE TO UPPER MIDDLE RIGHT",
    "LEFT TO UPPER MIDDLE RIGHT,CENTRE TO UPPER RIGHT"]⟩,
   ⟨0x1fb62, "UPPER RIGHT BLOCK DIAGONAL UPPER ", ["CENTRE TO UPPER MIDDLE RIGHT",
    "LEFT TO UPPER MIDDLE RIGHT,CENTRE TO LOWER MIDDLE RIGHT,LEFT TO LOWER MIDDLE RIGHT",
    "CENTRE TO LOWER RIGHT,MIDDLE LEFT TO LOWER MIDDLE RIGHT"]⟩,
   ⟨0x1fb68, "", ["UPPER AND RIGHT AND LOWER TRIANGULAR THREE QUARTERS BLOCK",
    "LEFT AND LOWER AND RIGHT TRIANGULAR THREE QUARTERS BLOCK",
    "UPPER AND LEFT AND LOWER TRIANGULAR THREE QUARTERS BLOCK",
    "LEFT AND UPPER AND RIGHT TRIANGULAR THREE QUARTERS BLOCK"]⟩,
   ⟨0x1fb6c, "", ["LEFT TRIANGULAR ONE QUARTER BLOCK,UPPER TRIANGULAR ONE QUARTER BLOCK",
    "RIGHT TRIANGULAR ONE QUARTER BLOCK,LOWER TRIANGULAR ONE QUARTER BLOCK"]⟩,
   ⟨0x1fb70, "VERTICAL ONE EIGHTH BLOCK-", ["2,3,4,5,6,7"]⟩,
   ⟨0x1fb76, "HORIZONTAL ONE EIGHTH BLOCK-", ["2,3,4,5,6,7"]⟩,
   ⟨0x1fb7c, "LEFT AND ", ["LOWER ONE EIGHTH BLOCK,UPPER ONE EIGHTH BLOCK"]⟩,
   ⟨0x1fb7e, "", ["RIGHT AND UPPER ONE EIGHTH BLOCK,RIGHT AND LOWER ONE EIGHTH BLOCK",
    "UPPER AND LOWER ONE EIGHTH BLOCK,HORIZONTAL ONE EIGHTH BLOCK-1358"]⟩,
   ⟨0x1fb82, "UPPER ", ["ONE QUARTER BLOCK,THREE EIGHTHS BLOCK,FIVE EIGHTHS BLOCK",
    "THREE QUARTERS BLOCK,SEVEN EIGHTHS BLOCK"]⟩,
   ⟨0x1fb87, "RIGHT ", ["ONE QUARTER BLOCK,THREE EIGHTHS BLOCK,FIVE EIGHTHS BLOCK",
    "THREE QUARTERS BLOCK,SEVEN EIGHTHS BLOCK"]⟩,
   ⟨0x1fb8c, "", ["LEFT HALF MEDIUM SHADE,RIGHT HALF MEDIUM SHADE,UPPER HALF MEDIUM SHADE"]⟩,
   ⟨0x1fb8f, "", ["LOWER HALF MEDIUM SHADE,INVERSE MEDIUM SHADE",
    "UPPER HALF BLOCK AND LOWER HALF INVERSE MEDIUM SHADE",
    "UPPER HALF INVERSE MEDIUM SHADE AND LOWER HALF BLOCK"]⟩,
   ⟨0x1fb94, "", ["LEFT HALF INVERSE MEDIUM SHADE AND RIGHT HALF BLOCK,CHECKER BOARD FILL",
    "INVERSE CHECKER BOARD FILL,HEAVY HORIZONTAL FILL"]⟩,
   ⟨0x1fb98, "", ["UPPER LEFT TO LOWER RIGHT FILL,UPPER RIGHT TO LOWER LEFT FILL",
    "UPPER AND LOWER TRIANGULAR HALF BLOCK,LEFT AND RIGHT TRIANGULAR HALF BLOCK"]⟩,
   ⟨0x1fb9c, "", ["UPPER LEFT TRIANGULAR MEDIUM SHADE,UPPER RIGHT TRIANGULAR MEDIUM SHADE",
    "LOWER RIGHT TRIANGULAR MEDIUM SHADE,LOWER LEFT TRIANGULAR MEDIUM SHADE"]⟩,
   ⟨0x1fba0, "BOX DRAWINGS LIGHT DIAGONAL ", ["UPPER CENTRE TO MIDDLE LEFT",
    "UPPER CENTRE TO MIDDLE RIGHT,MIDDLE LEFT TO LOWER CENTRE,MIDDLE RIGHT TO LOWER CENTRE",
    "UPPER CENTRE TO MIDDLE LEFT TO LOWER CENTRE,UPPER CENTRE TO MIDDLE RIGHT TO LOWER CENTRE",
    "MIDDLE LEFT TO LOWER CENTRE TO MIDDLE RIGHT,MIDDLE LEFT TO UPPER CENTRE TO MIDDLE RIGHT",
    "UPPER CENTRE TO MIDDLE LEFT AND MIDDLE RIGHT TO LOWER CENTRE",
    "UPPER CENTRE TO MIDDLE RIGHT AND MIDDLE LEFT TO LOWER CENTRE",
    "UPPER CENTRE TO MIDDLE RIGHT TO LOWER CENTRE TO MIDDLE LEFT",
    "UPPER CENTRE TO MIDDLE LEFT TO LOWER CENTRE TO MIDDLE RIGHT",
    "MIDDLE LEFT TO UPPER CENTRE TO MIDDLE RIGHT TO LOWER CENTRE",
    "MIDDLE RIGHT TO UPPER CENTRE TO MIDDLE LEFT TO LOWER CENTRE,DIAMOND"]⟩,
   ⟨0x1fbaf, "", ["BOX DRAWINGS LIGHT HORIZONTAL WITH VERTICAL STROKE,ARROWHEAD-SHAPED POINTER"]⟩,
   ⟨0x1fbb1, "", ["INVERSE CHECK MARK,LEFT HALF RUNNING MAN,RIGHT HALF RUNNING MAN",
    "INVERSE DOWNWARDS ARROW WITH TIP LEFTWARDS"]⟩,
   ⟨0x1fbb5, "", ["LEFTWARDS ARROW AND UPPER AND LOWER ONE EIGHTH BLOCK",
    "RIGHTWARDS ARROW AND UPPER AND LOWER ONE EIGHTH BLOCK",
    "DOWNWARDS ARROW AND RIGHT ONE EIGHTH BLOCK,UPWARDS ARROW AND RIGHT ONE EIGHTH BLOCK"]⟩,
   ⟨0x1fbb9, "", ["LEFT HALF FOLDER,RIGHT HALF FOLDER,VOIDED GREEK CROSS,RIGHT OPEN SQUARED DOT"]⟩,
   ⟨0x1fbbd, "NEGATIVE DIAGONAL ", ["CROSS,MIDDLE RIGHT TO LOWER CENTRE,DIAMOND"]⟩,
   ⟨0x1fbc0, "", ["WHITE HEAVY SALTIRE WITH ROUNDED CORNERS,LEFT THIRD WHITE RIGHT POINTING INDEX"]⟩,
   ⟨0x1fbc2, "", ["MIDDLE THIRD WHITE RIGHT POINTING INDEX,RIGHT THIRD WHITE RIGHT POINTING INDEX",
    "NEGATIVE SQUARED QUESTION MARK,STICK FIGURE"]⟩,
   ⟨0x1fbc6, "STICK FIGURE ", ["WITH ARMS RAISED,LEANING LEFT,LEANING RIGHT,WITH DRESS"]⟩,
   ⟨0x1fbca, "", ["WHITE UP-POINTING CHEVRON"]⟩,
   ⟨0x1fbf0, "SEGMENTED DIGIT ", ["ZERO,ONE,TWO,THREE,FOUR,FIVE,SIX,SEVEN,EIGHT,NINE"]⟩,
   ⟨0x2f800, "CJK COMPATIBILITY IDEOGRAPH-", ["2F800,2F801,2F802,2F803,2F804,2F805,2F806,2F807",
    "2F808,2F809,2F80A,2F80B,2F80C,2F80D,2F80E,2F80F,2F810,2F811,2F812,2F813,2F814,2F815,2F816",
    "2F817,2F818,2F819,2F81A,2F81B,2F81C,2F81D,2F81E,2F81F,2F820,2F821,2F822,2F823,2F824,2F825",
    "2F826,2F827,2F828,2F829,2F82A,2F82B,2F82C,2F82D,2F82E,2F82F,2F830,2F831,2F832,2F833,2F834",
    "2F835,2F836,2F837,2F838,2F839,2F83A,2F83B,2F83C,2F83D,2F83E,2F83F,2F840,2F841,2F842,2F843",
    "2F844,2F845,2F846,2F847,2F848,2F849,2F84A,2F84B,2F84C,2F84D,2F84E,2F84F,2F850,2F851,2F852",
    "2F853,2F854,2F855,2F856,2F857,2F858,2F859,2F85A,2F85B,2F85C,2F85D,2F85E,2F85F,2F860,2F861",
    "2F862,2F863,2F864,2F865,2F866,2F867,2F868,2F869,2F86A,2F86B,2F86C,2F86D,2F86E,2F86F,2F870",
    "2F871,2F872,2F873,2F874,2F875,2F876,2F877,2F878,2F879,2F87A,2F87B,2F87C,2F87D,2F87E,2F87F",
    "2F880,2F881,2F882,2F883,2F884,2F885,2F886,2F887,2F888,2F889,2F88A,2F88B,2F88C,2F88D"]⟩,
   ⟨0x2f88e, "CJK COMPATIBILITY IDEOGRAPH-", ["2F88E,2F88F,2F890,2F891,2F892,2F893,2F894,2F895",
    "2F896,2F897,2F898,2F899,2F89A,2F89B,2F89C,2F89D,2F89E,2F89F,2F8A0,2F8A1,2F8A2,2F8A3,2F8A4",
    "2F8A5,2F8A6,2F8A7,2F8A8,2F8A9,2F8AA,2F8AB,2F8AC,2F8AD,2F8AE,2F8AF,2F8B0,2F8B1,2F8B2,2F8B3",
    "2F8B4,2F8B5,2F8B6,2F8B7,2F8B8,2F8B9,2F8BA,2F8BB,2F8BC,2F8BD,2F8BE,2F8BF,2F8C0,2F8C1,2F8C2",
    "2F8C3,2F8C4,2F8C5,2F8C6,2F8C7,2F8C8,2F8C9,2F8CA,2F8CB,2F8CC,2F8CD,2F8CE,2F8CF,2F8D0,2F8D1",
    "2F8D2,2F8D3,2F8D4,2F8D5,2F8D6,2F8D7,2F8D8,2F8D9,2F8DA,2F8DB,2F8DC,2F8DD,2F8DE,2F8DF,2F8E0",
    "2F8E1,2F8E2,2F8E3,2F8E4,2F8E5,2F8E6,2F8E7,2F8E8,2F8E9,2F8EA,2F8EB,2F8EC,2F8ED,2F8EE,2F8EF",
    "2F8F0,2F8F1,2F8F2,2F8F3,2F8F4,2F8F5,2F8F6,2F8F7,2F8F8,2F8F9,2F8FA,2F8FB,2F8FC,2F8FD,2F8FE",
    "2F8FF,2F900,2F901,2F902,2F903,2F904,2F905,2F906,2F907,2F908,2F909,2F90A,2F90B,2F90C,2F90D",
    "2F90E,2F90F,2F910,2F911,2F912,2F913,2F914,2F915,2F916,2F917,2F918,2F919,2F91A,2F91B,2F91C",
    "2F91D,2F91E,2F91F,2F920,2F921,2F922,2F923,2F924,2F925,2F926,2F927,2F928,2F929,2F92A,2F92B",
    "2F92C,2F92D,2F92E,2F92F,2F930,2F931,2F932,2F933,2F934,2F935,2F936,2F937,2F938,2F939,2F93A",
    "2F93B,2F93C,2F93D,2F93E,2F93F,2F940,2F941,2F942,2F943,2F944,2F945,2F946,2F947,2F948,2F949",
    "2F94A,2F94B,2F94C,2F94D,2F94E,2F94F,2F950,2F951,2F952,2F953,2F954,2F955,2F956,2F957,2F958",
    "2F959,2F95A,2F95B,2F95C,2F95D,2F95E,2F95F,2F960,2F961,2F962,2F963,2F964,2F965,2F966,2F967",
    "2F968,2F969,2F96A,2F96B,2F96C,2F96D,2F96E,2F96F,2F970,2F971,2F972,2F973,2F974,2F975,2F976",
    "2F977,2F978,2F979,2F97A,2F97B,2F97C,2F97D,2F97E,2F97F,2F980,2F981,2F982,2F983,2F984,2F985",
    "2F986,2F987,2F988,2F989,2F98A,2F98B,2F98C,2F98D,2F98E,2F98F,2F990,2F991,2F992,2F993,2F994",
    "2F995,2F996,2F997,2F998,2F999,2F99A,2F99B,2F99C,2F99D,2F99E,2F99F,2F9A0,2F9A1,2F9A2,2F9A3",
    "2F9A4,2F9A5,2F9A6,2F9A7,2F9A8,2F9A9,2F9AA,2F9AB,2F9AC,2F9AD,2F9AE,2F9AF,2F9B0,2F9B1,2F9B2",
    "2F9B3,2F9B4,2F9B5,2F9B6,2F9B7,2F9B8,2F9B9,2F9BA,2F9BB,2F9BC,2F9BD,2F9BE,2F9BF,2F9C0,2F9C1",
    "2F9C2,2F9C3,2F9C4,2F9C5,2F9C6,2F9C7,2F9C8,2F9C9,2F9CA,2F9CB,2F9CC,2F9CD,2F9CE,2F9CF,2F9D0",
    "2F9D1,2F9D2,2F9D3,2F9D4,2F9D5,2F9D6,2F9D7,2F9D8,2F9D9,2F9DA,2F9DB,2F9DC,2F9DD,2F9DE,2F9DF",
    "2F9E0,2F9E1,2F9E2,2F9E3,2F9E4,2F9E5,2F9E6,2F9E7,2F9E8,2F9E9,2F9EA,2F9EB,2F9EC,2F9ED,2F9EE",
    "2F9EF,2F9F0,2F9F1,2F9F2,2F9F3,2F9F4,2F9F5,2F9F6,2F9F7,2F9F8,2F9F9,2F9FA,2F9FB,2F9FC,2F9FD",
    "2F9FE,2F9FF,2FA00,2FA01,2FA02,2FA03,2FA04,2FA05,2FA06,2FA07,2FA08,2FA09,2FA0A,2FA0B,2FA0C",
    "2FA0D,2FA0E,2FA0F,2FA10,2FA11,2FA12,2FA13,2FA14,2FA15,2FA16,2FA17,2FA18,2FA19,2FA1A,2FA1B",
    "2FA1C,2FA1D"]⟩,
   ⟨0xe0001, "", ["LANGUAGE TAG"]⟩,
   ⟨0xe0020, "TAG ", ["SPACE,EXCLAMATION MARK,QUOTATION MARK,NUMBER SIGN,DOLLAR SIGN,PERCENT SIGN",
    "AMPERSAND,APOSTROPHE,LEFT PARENTHESIS,RIGHT PARENTHESIS,ASTERISK,PLUS SIGN,COMMA,HYPHEN-MINUS",
    "FULL STOP,SOLIDUS"]⟩,
   ⟨0xe0030, "TAG DIGIT ", ["ZERO,ONE,TWO,THREE,FOUR,FIVE,SIX,SEVEN,EIGHT,NINE"]⟩,
   ⟨0xe003a, "TAG ", ["COLON,SEMICOLON,LESS-THAN SIGN,EQUALS SIGN,GREATER-THAN SIGN,QUESTION MARK",
    "COMMERCIAL AT"]⟩,
   ⟨0xe0041, "TAG LATIN CAPITAL LETTER ", ["A,B,C,D,E,F,G,H,I,J,K,L,M,N,O,P,Q,R,S,T,U,V,W,X,Y,Z"]⟩,
   ⟨0xe005b, "TAG ", ["LEFT SQUARE BRACKET,REVERSE SOLIDUS,RIGHT SQUARE BRACKET,CIRCUMFLEX ACCENT",
    "LOW LINE,GRAVE ACCENT"]⟩,
   ⟨0xe0061, "TAG LATIN SMALL LETTER ", ["A,B,C,D,E,F,G,H,I,J,K,L,M,N,O,P,Q,R,S,T,U,V,W,X,Y,Z"]⟩,
   ⟨0xe007b, "", ["TAG LEFT CURLY BRACKET,TAG VERTICAL LINE,TAG RIGHT CURLY BRACKET,TAG TILDE",
    "CANCEL TAG"]⟩,
   ⟨0xe0100, "VARIATION SELECTOR-", ["17,18,19,20,21,22,23,24,25,26,27,28,29,30,31,32,33,34,35,36",
    "37,38,39,40,41,42,43,44,45,46,47,48,49,50,51,52,53,54,55,56,57,58,59,60,61,62,63,64,65,66,67",
    "68,69,70,71,72,73,74,75,76,77,78,79,80,81,82,83,84,85,86,87,88,89,90,91,92,93,94,95,96,97,98",
    "99,100,101,102,103,104,105,106,107,108,109,110,111,112,113,114,115,116,117,118,119,120,121,122",
    "123,124,125,126,127,128,129,130,131,132,133,134,135,136,137,138,139,140,141,142,143,144,145",
    "146,147,148,149,150,151,152,153,154,155,156,157,158,159,160,161,162,163,164,165,166,167,168",
    "169,170,171,172,173,174,175,176,177,178,179,180,181,182,183,184,185,186,187,188,189,190,191",
    "192,193,194,195,196,197,198,199,200,201,202,203,204,205,206,207,208,209,210,211,212,213,214",
    "215,216,217,218,219,220,221,222,223,224,225,226,227,228,229,230,231,232,233,234,235,236,237",
    "238,239,240,241,242,243,244,245,246,247,248,249,250,251,252,253,254,255,256"]⟩]

end ConstantSweep.Text

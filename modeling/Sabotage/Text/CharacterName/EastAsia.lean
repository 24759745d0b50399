/-!
# East Asian scripts

Radicals, syllabaries and letters of the East Asian scripts, with their signs.
-/

namespace Sabotage.Text.CharacterName

/-- The listing of these names. -/
def eastAsianNames : String := "
: CIRCLED_POSTAL_MARK DITTO_MARK DOUBLE_PRIME_QUOTATION_MARK GETA_MARK
JAPANESE_INDUSTRIAL_STANDARD_SYMBOL KHITAN_SMALL_SCRIPT_FILLER KOREAN_STANDARD_SYMBOL
LIMITED_LIABILITY_SIGN LOW_DOUBLE_PRIME_QUOTATION_MARK MASU_MARK NUSHU_ITERATION_MARK
PART_ALTERNATION_MARK PARTNERSHIP_SIGN REVERSED_DOUBLE_PRIME_QUOTATION_MARK TANGUT_ITERATION_MARK
VERTICAL_IDEOGRAPHIC_ITERATION_MARK WAVE_DASH WAVY_DASH BOPOMOFO_FINAL_LETTER_: G H K P T
BOPOMOFO_LETTER_: A AH AI AINN AM AN ANG ANN AU AUNN B BU C CH D E EE EH EI EN ENG ENN ER F G GH GN
GU GW H I IH IM INN INNN IR IU J JI K KW L LH M N NG NGG NN O O_WITH_DOT_ABOVE OE OM ONG ONN OO OU P
Q R S SH T U UNN V X Z ZH ZI ZY CIRCLED_HANGUL_: CHIEUCH CHIEUCH_A CIEUC CIEUC_A HIEUH HIEUH_A IEUNG
IEUNG_A IEUNG_U KHIEUKH KHIEUKH_A KIYEOK KIYEOK_A MIEUM MIEUM_A NIEUN NIEUN_A PHIEUPH PHIEUPH_A
PIEUP PIEUP_A RIEUL RIEUL_A SIOS SIOS_A THIEUTH THIEUTH_A TIKEUT TIKEUT_A CIRCLED_IDEOGRAPH_:
ALLIANCE ATTENTION CENTRE CONGRATULATION COPY CORRECT EARTH EIGHT ENTERPRISE EXCELLENT FEMALE
FINANCIAL FIRE FIVE FOUR HAVE HIGH ITEM KINDERGARTEN KOTO LABOR LEFT LOW MALE MEDICINE METAL MOON
NAME NIGHT NINE ONE PRINT QUESTION RELIGION RESOURCE REST RIGHT SCHOOL SECRET SEVEN SIX SOCIETY
SPECIAL STOCK STUDY SUITABLE SUN SUPERVISE TEN THREE TWO WATER WOOD CIRCLED_KATAKANA_: A E HA HE HI
HO HU I KA KE KI KO KU MA ME MI MO MU NA NE NI NO NU O RA RE RI RO RU SA SE SI SO SU TA TE TI TO TU
U WA WE WI WO YA YO YU CIRCLED_KOREAN_CHARACTER_: CHAMKO JUEUI CIRCLED_NUMBER_:
EIGHTY_ON_BLACK_SQUARE FIFTY FIFTY_ON_BLACK_SQUARE FORTY SEVENTY_ON_BLACK_SQUARE
SIXTY_ON_BLACK_SQUARE TEN_ON_BLACK_SQUARE THIRTY CIRCLED_NUMBER_FORTY_: CIRCLED_NUMBER_THIRTY_:
CIRCLED_NUMBER_TWENTY_: EIGHT FIVE FOUR NINE ON_BLACK_SQUARE ONE SEVEN SIX THREE TWO CJK_RADICAL_:
BAMBOO BLUE BOLT_OF_CLOTH BONE BOX BRUSH_ONE BRUSH_TWO CHOKE CITY CIVILIAN CLIFF CLOTHES COW DEATH
DIVINATION DOG EAT_ONE EAT_THREE EAT_TWO EWE EYE FIRE FOOT GHOST GRASS_ONE GRASS_THREE GRASS_TWO
HAND HEAD HEART_ONE HEART_TWO HORN JADE KNIFE_ONE KNIFE_TWO LONG_ONE LONG_TWO MEAT MESH MOON MORTAR
MOTHER MOUND_ONE MOUND_TWO NET_FOUR NET_ONE NET_THREE NET_TWO OLD PAW_ONE PAW_TWO PERSON RAIN RAM
RAP REPEAT SEAL SECOND_ONE SECOND_THREE SECOND_TWO SHEEP SILK SMALL_ONE SMALL_TWO SNAKE SNOUT_ONE
SNOUT_TWO SPIRIT_ONE SPIRIT_TWO SUN TABLE THREAD TIGER TURTLE WALK_ONE WALK_TWO WATER_ONE WATER_TWO
WEST_ONE WEST_TWO CJK_RADICAL_C-SIMPLIFIED_: BIRD CART DRAGON EAT EVEN FISH FLY FROG GATE GOLD HORSE
LEAF LONG SALT SEE SHELL SILK SPEECH TANNED_LEATHER TOOTH TURTLE WIND CJK_RADICAL_J-SIMPLIFIED_:
DRAGON EVEN TOOTH TURTLE CJK_RADICAL_LAME_: FOUR ONE THREE TWO CJK_RADICAL_SIMPLIFIED_:
HALF_TREE_TRUNK HORN WALK WHEAT YELLOW CJK_STROKE_: BXG D H HG HP HPWG HXWG HZ HZG HZT HZW HZWG HZZ
HZZP HZZZ HZZZG N P PD PG PZ Q S SG SP ST SW SWG SWZ SZ SZWG SZZ T TN WG XG
COMBINING_KATAKANA-HIRAGANA_: SEMI-VOICED_SOUND_MARK VOICED_SOUND_MARK HANGUL_: DOUBLE_DOT_TONE_MARK
FILLER SINGLE_DOT_TONE_MARK HANGUL_JONGSEONG_: CIEUC-PIEUP CIEUC-SSANGPIEUP KAPYEOUNRIEUL
MIEUM-CIEUC MIEUM-NIEUN MIEUM-PIEUP-SIOS MIEUM-SSANGNIEUN NIEUN-CHIEUCH NIEUN-RIEUL
PANSIOS-KAPYEOUNPIEUP PANSIOS-PIEUP PHIEUPH-SIOS PHIEUPH-THIEUTH SSANGCIEUC SSANGMIEUM SSANGPIEUP
SSANGRIEUL-KHIEUKH SSANGSIOS-KIYEOK SSANGSIOS-TIKEUT SSANGTIKEUT SSANGTIKEUT-PIEUP YESIEUNG-HIEUH
YESIEUNG-MIEUM HANGUL_JONGSEONG_PIEUP-: CHIEUCH CIEUC MIEUM RIEUL-PHIEUPH SIOS-TIKEUT TIKEUT
HANGUL_JONGSEONG_RIEUL-: KIYEOK-HIEUH MIEUM-HIEUH PIEUP-PHIEUPH PIEUP-TIKEUT SSANGKIYEOK
YEORINHIEUH-HIEUH YESIEUNG HANGUL_JONGSEONG_SIOS-: CHIEUCH CIEUC HIEUH KAPYEOUNPIEUP MIEUM PANSIOS
THIEUTH HANGUL_JONGSEONG_TIKEUT-: CHIEUCH CIEUC PIEUP SIOS SIOS-KIYEOK THIEUTH HANGUL_JUNGSEONG_:
ARAEA-A ARAEA-E EU-A EU-E EU-EO EU-O I-I I-O-I I-YA-O I-YAE I-YE I-YEO I-YO I-YU O-O-I O-YEO U-I-I
U-YEO YO-A YO-AE YO-EO YU-AE YU-O HANGUL_LETTER_: A AE ARAEA ARAEAE CHIEUCH CIEUC E EO EU HIEUH I
IEUNG KAPYEOUNMIEUM KAPYEOUNPHIEUPH KAPYEOUNPIEUP KAPYEOUNSSANGPIEUP KHIEUKH KIYEOK KIYEOK-SIOS
MIEUM MIEUM-PANSIOS MIEUM-PIEUP MIEUM-SIOS NIEUN O OE PANSIOS PHIEUPH PIEUP RIEUL SIOS SSANGCIEUC
SSANGHIEUH SSANGIEUNG SSANGKIYEOK SSANGNIEUN SSANGPIEUP SSANGSIOS SSANGTIKEUT THIEUTH TIKEUT U WA
WAE WE WEO WI YA YAE YE YEO YEORINHIEUH YESIEUNG YESIEUNG-PANSIOS YESIEUNG-SIOS YI YO YO-I YO-YA
YO-YAE YU YU-I YU-YE YU-YEO HANGUL_LETTER_NIEUN-: CIEUC HIEUH PANSIOS SIOS TIKEUT
HANGUL_LETTER_PIEUP-: CIEUC KIYEOK SIOS SIOS-KIYEOK SIOS-TIKEUT THIEUTH TIKEUT HANGUL_LETTER_RIEUL-:
HIEUH KIYEOK KIYEOK-SIOS MIEUM PANSIOS PHIEUPH PIEUP PIEUP-SIOS SIOS THIEUTH TIKEUT YEORINHIEUH
HANGUL_LETTER_SIOS-: CIEUC KIYEOK NIEUN PIEUP TIKEUT HANGZHOU_NUMERAL_: EIGHT FIVE FOUR NINE ONE
SEVEN SIX TEN THIRTY THREE TWENTY TWO HENTAIGANA_LETTER_: A-1 A-2 A-3 A-WO E-2 E-3 E-4 E-5 E-6 HE-1
HE-2 HE-3 HE-4 HE-5 HE-6 HE-7 HI-1 HI-2 HI-3 HI-4 HI-5 HI-6 HI-7 HU-1 HU-2 HU-3 I-1 I-2 I-3 I-4 KE-1
KE-2 KE-3 KE-4 KE-5 KE-6 KO-1 KO-2 KO-3 KO-KI KU-1 KU-2 KU-3 KU-4 KU-5 KU-6 KU-7 MA-1 MA-2 MA-3 MA-4
MA-5 MA-6 MA-7 ME-1 ME-2 ME-MA MI-1 MI-2 MI-3 MI-4 MI-5 MI-6 MI-7 MO-1 MO-2 MO-3 MO-4 MO-5 MO-6 MU-1
MU-2 MU-3 MU-4 N-MU-MO-1 N-MU-MO-2 NE-1 NE-2 NE-3 NE-4 NE-5 NE-6 NE-KO NO-1 NO-2 NO-3 NO-4 NO-5 NU-1
NU-2 NU-3 O-1 O-2 O-3 RA-1 RA-2 RA-3 RA-4 RE-1 RE-2 RE-3 RE-4 RI-1 RI-2 RI-3 RI-4 RI-5 RI-6 RI-7
RO-1 RO-2 RO-3 RO-4 RO-5 RO-6 RU-1 RU-2 RU-3 RU-4 RU-5 RU-6 SE-1 SE-2 SE-3 SE-4 SE-5 SI-1 SI-2 SI-3
SI-4 SI-5 SI-6 SO-1 SO-2 SO-3 SO-4 SO-5 SO-6 SO-7 TA-1 TA-2 TA-3 TA-4 TI-1 TI-2 TI-3 TI-4 TI-5 TI-6
TI-7 TO-1 TO-2 TO-3 TO-4 TO-5 TO-6 TO-RA TU-1 TU-2 TU-3 TU-4 TU-TO U-1 U-2 U-3 U-4 U-5 WA-1 WA-2
WA-3 WA-4 WA-5 WE-1 WE-2 WE-3 WE-4 WI-1 WI-2 WI-3 WI-4 WI-5 WO-1 WO-2 WO-3 WO-4 WO-5 WO-6 WO-7 YA-1
YA-2 YA-3 YA-4 YA-5 YA-YO YO-1 YO-2 YO-3 YO-4 YO-5 YO-6 YU-1 YU-2 YU-3 YU-4 HENTAIGANA_LETTER_HA-: 1
10 11 2 3 4 5 6 7 8 9 HENTAIGANA_LETTER_HO-: HENTAIGANA_LETTER_KI-: HENTAIGANA_LETTER_SA-:
HENTAIGANA_LETTER_SU-: 1 2 3 4 5 6 7 8 HENTAIGANA_LETTER_KA-: 1 10 11 2 3 4 5 6 7 8 9 KE
HENTAIGANA_LETTER_NA-: HENTAIGANA_LETTER_TE-: 1 2 3 4 5 6 7 8 9 HENTAIGANA_LETTER_NI-: 1 2 3 4 5 6 7
TE HEXAGRAM_FOR_: ABUNDANCE AFTER_COMPLETION APPROACH BEFORE_COMPLETION BITING_THROUGH BREAKTHROUGH
COMING_TO_MEET CONFLICT CONTEMPLATION DARKENING_OF_THE_LIGHT DECREASE DELIVERANCE DEVELOPMENT
DIFFICULTY_AT_THE_BEGINNING DISPERSION DURATION ENTHUSIASM FELLOWSHIP FOLLOWING GATHERING_TOGETHER
GRACE HOLDING_TOGETHER INCREASE INFLUENCE INNER_TRUTH INNOCENCE LIMITATION MODESTY MOUTH_CORNERS
OBSTRUCTION OPPOSITION OPPRESSION PEACE PROGRESS PUSHING_UPWARD RETREAT RETURN REVOLUTION
SMALL_PREPONDERANCE SMALL_TAMING SPLITTING_APART STANDSTILL TREADING WAITING WORK_ON_THE_DECAYED
YOUTHFUL_FOLLY HEXAGRAM_FOR_GREAT_: POSSESSION POWER PREPONDERANCE TAMING HEXAGRAM_FOR_THE_:
ABYSMAL_WATER ARMY AROUSING_THUNDER CAULDRON CLINGING_FIRE CREATIVE_HEAVEN FAMILY GENTLE_WIND
JOYOUS_LAKE KEEPING_STILL_MOUNTAIN MARRYING_MAIDEN RECEPTIVE_EARTH WANDERER WELL HIRAGANA_:
DIGRAPH_YORI ITERATION_MARK VOICED_ITERATION_MARK HIRAGANA_LETTER_: A ARCHAIC_WU ARCHAIC_YE BA BE BI
BO BU DA DE DI DO DU E GA GE GI GO GU HA HE HI HO HU I KA KE KI KO KU MA ME MI MO MU N NA NE NI NO
NU O PA PE PI PO PU RA RE RI RO RU SA SE SI SO SU TA TE TI TO TU U VU WA WE WI WO YA YO YU ZA ZE ZI
ZO ZU HIRAGANA_LETTER_SMALL_: A E I KA KE O TU U WA WE WI WO YA YO YU IDEOGRAPHIC_: CLOSING_MARK
COMMA DEPARTING_TONE_MARK ENTERING_TONE_MARK FULL_STOP HALF_FILL_SPACE ITERATION_MARK
LEVEL_TONE_MARK NUMBER_ZERO RISING_TONE_MARK SPACE TELEGRAPH_LINE_FEED_SEPARATOR_SYMBOL
VARIATION_INDICATOR IDEOGRAPHIC_ANNOTATION_: BOTTOM_MARK EARTH_MARK FIRST_MARK FOUR_MARK FOURTH_MARK
HEAVEN_MARK LINKING_MARK MAN_MARK MIDDLE_MARK ONE_MARK REVERSE_MARK SECOND_MARK THIRD_MARK
THREE_MARK TOP_MARK TWO_MARK IDEOGRAPHIC_DESCRIPTION_CHARACTER_: ABOVE_TO_BELOW
ABOVE_TO_MIDDLE_AND_BELOW FULL_SURROUND LEFT_TO_MIDDLE_AND_RIGHT LEFT_TO_RIGHT OVERLAID
IDEOGRAPHIC_DESCRIPTION_CHARACTER_SURROUND_FROM_: ABOVE BELOW LEFT LOWER_LEFT UPPER_LEFT UPPER_RIGHT
IDEOGRAPHIC_TELEGRAPH_SYMBOL_FOR_: APRIL AUGUST DECEMBER FEBRUARY JANUARY JULY JUNE MARCH MAY
NOVEMBER OCTOBER SEPTEMBER IDEOGRAPHIC_TELEGRAPH_SYMBOL_FOR_DAY_: EIGHT EIGHTEEN ELEVEN FIFTEEN FIVE
FOUR FOURTEEN NINE NINETEEN ONE SEVEN SEVENTEEN SIX SIXTEEN TEN THIRTEEN THIRTY THIRTY-ONE THREE
TWELVE TWENTY TWO IDEOGRAPHIC_TELEGRAPH_SYMBOL_FOR_DAY_TWENTY-: EIGHT FIVE FOUR NINE ONE SEVEN SIX
THREE TWO IDEOGRAPHIC_TELEGRAPH_SYMBOL_FOR_HOUR_: EIGHT EIGHTEEN ELEVEN FIFTEEN FIVE FOUR FOURTEEN
NINE NINETEEN ONE SEVEN SEVENTEEN SIX SIXTEEN TEN THIRTEEN THREE TWELVE TWENTY TWENTY-FOUR
TWENTY-ONE TWENTY-THREE TWENTY-TWO TWO ZERO KANGXI_RADICAL_: AGAIN AND ARRIVE ARROW AXE BADGER
BAMBOO BEAN BIG BIRD BITTER BLACK BLOOD BLUE BOAT BODY BOLT_OF_CLOTH BONE BOW BRANCH BRISTLE BRUSH
CART CAULDRON CAVE CHILD CITY CLAN CLAW CLIFF CLOTHES COLOR COMPARE CORPSE COVER COW DEATH DEER
DIPPER DISH DISTINGUISH DIVINATION DO_NOT DOG DOOR DOT DOTTED_CLIFF DOTTED_TENT DOUBLE_X DOWN_BOX
DRAGON DRUM DRY EAR EARTH EAT EIGHT EMBROIDERY ENCLOSURE ENTER EVEN EVENING EYE FACE FANG FATHER
FEATHER FIELD FIGHT FIRE FISH FLUTE FLY FOOT FRAGRANT FROG FUR GATE GHOST GO GO_SLOWLY GOLD GRAIN
GRASS HAIR HALBERD HALF_TREE_TRUNK HAND HEAD HEART HEMP HIDING_ENCLOSURE HOOK HORN HORSE ICE INCH
INSECT JADE JAR KNIFE LACK LAME LEAF LEATHER LEEK LEGS LID LIFE LINE LONG LONG_STRIDE MAN MEAT MELON
MILLET MINISTER MOON MORNING MORTAR MOUND MOUNTAIN MOUTH NET NOSE NOT OLD ONE ONESELF OPEN_BOX
OPPOSE PIG PLOW POWER PRIVATE PROFOUND RAIN RAP RAT RED RICE RIGHT_OPEN_BOX RIVER ROOF RUN
SACRIFICIAL_WINE SALT SAY SCHOLAR SCRIPT SEAL SECOND SEE SELF SHEEP SHELL SHOOT SHORT_TAILED_BIRD
SHORT_THREAD SICKNESS SILK SKIN SLASH SLAVE SLICE SMALL SNOUT SOUND SPEAR SPEECH SPIRIT SPOON SPROUT
SQUARE STAND STEAM STEP STONE STOP STOPPING SUN SWEET TABLE TALL TANNED_LEATHER TEN TIGER TILE
TONGUE TOOTH TRACK TREE TRIPOD TURBAN TURTLE TWO TWO_HANDS USE VALLEY VILLAGE WALK WALK_ENCLOSURE
WATER WEAPON WEST WHEAT WHITE WIND WINE WOMAN WORK WRAP WRONG YELLOW KATAKANA_: DIGRAPH_KOTO
ITERATION_MARK MIDDLE_DOT VOICED_ITERATION_MARK KATAKANA_LETTER_: A BA BE BI BO BU DA DE DI DO DU E
GA GE GI GO GU HA HE HI HO HU I KA KE KI KO KU MA ME MI MO MU N NA NE NI NO NU O PA PE PI PO PU RA
RE RI RO RU SA SE SI SO SU TA TE TI TO TU U VA VE VI VO VU WA WE WI WO YA YO YU ZA ZE ZI ZO ZU
KATAKANA_LETTER_ARCHAIC_: E WU YE YI KATAKANA_LETTER_MINNAN_NASALIZED_TONE-: 1 2 3 4 5 7 8
KATAKANA_LETTER_MINNAN_TONE-: 2 3 4 5 7 8 KATAKANA_LETTER_SMALL_: A E HA HE HI HO HU I KA KE KU MU N
NU O RA RE RI RO RU SI SU TO TU U WA WE WI WO YA YO YU KATAKANA-HIRAGANA_: DOUBLE_HYPHEN
PROLONGED_SOUND_MARK SEMI-VOICED_SOUND_MARK VOICED_SOUND_MARK LEFT_: RIGHT_: ANGLE_BRACKET
BLACK_LENTICULAR_BRACKET CORNER_BRACKET DOUBLE_ANGLE_BRACKET TORTOISE_SHELL_BRACKET LEFT_WHITE_:
RIGHT_WHITE_: CORNER_BRACKET LENTICULAR_BRACKET SQUARE_BRACKET TORTOISE_SHELL_BRACKET OLD_CHINESE_:
HOOK_MARK ITERATION_MARK PARENTHESIZED_HANGUL_: CHIEUCH CHIEUCH_A CIEUC CIEUC_A CIEUC_U HIEUH
HIEUH_A IEUNG IEUNG_A KHIEUKH KHIEUKH_A KIYEOK KIYEOK_A MIEUM MIEUM_A NIEUN NIEUN_A PHIEUPH
PHIEUPH_A PIEUP PIEUP_A RIEUL RIEUL_A SIOS SIOS_A THIEUTH THIEUTH_A TIKEUT TIKEUT_A
PARENTHESIZED_IDEOGRAPH_: ALLIANCE CALL CONGRATULATION EARTH EIGHT ENTERPRISE FESTIVAL FINANCIAL
FIRE FIVE FOUR HAVE LABOR METAL MOON NAME NINE ONE REACH REPRESENT RESOURCE REST SELF SEVEN SIX
SOCIETY SPECIAL STOCK STUDY SUN SUPERVISE TEN THREE TWO WATER WOOD PARENTHESIZED_KOREAN_CHARACTER_:
O_HU OJEON POSTAL_: MARK MARK_FACE SQUARE_: A_OVER_M AARU AM ANPEA APAATO ARUHUA AU BAARERU BAR
BEETA BIRU BORUTO BQ BUSSYERU C_OVER_KG CAL CC CD CM CM_CUBED CM_SQUARED CO CORPORATION DA DAASU DB
DESI DL DM DM_CUBED DM_SQUARED DORU EEKAA ERG ESUKUUDO EV FM GAL GANMA GARON GB GHZ GIGA GINII
GIRUDAA GPA GURAMU GURAMUTON GY HA HAITU HEKUTAARU HERUTU HG HON HOON HOORU HP HPA HUARADDO HUIITO
HURAN HZ IN ININGU INTI IU K_OHM KA KAIRI KARATTO KARORII KB KCAL KEESU KG KHZ KIRO KIROGURAMU
KIROMEETORU KIROWATTO KK KL KM KM_CAPITAL KM_CUBED KM_SQUARED KOOPO KORUNA KPA KT KUROONE KURUZEIRO
KV KW KYURII LM LN LOG LX M_CUBED M_OHM M_OVER_S M_OVER_S_SQUARED M_SQUARED MA MAHHA MAIKURO MAIRU
MANSYON MARUKU MB MB_SMALL MEETORU MEGA MEGATON MG MHZ MIKURON MIL MIRI MIRIBAARU ML MM MM_CUBED
MM_SQUARED MOL MPA MS MV MV_MEGA MW MW_MEGA NA NANO NF NM NOTTO NS NV NW ONSU OOMU OV PA PA_AMPS
PAASENTO PAATU PC PEEZI PENIHI PENSU PESO PF PH PIASUTORU PIKO PIKURU PM POINTO PONDO PPM PR PS PV
PW RAD RAD_OVER_S RAD_OVER_S_SQUARED REMU RENTOGEN RIRA RITTORU RUPII RUUBURU SAIKURU SANTIIMU SENTI
SENTO SIRINGU SR SV THZ TON UON V_OVER_M WATTO WB YAADO YAARU YUAN SQUARE_ERA_NAME_: HEISEI MEIZI
REIWA SYOUWA TAISYOU SQUARE_MU_: A F G L M S V W VERTICAL_KANA_REPEAT_: MARK MARK_LOWER_HALF
MARK_UPPER_HALF WITH_VOICED_SOUND_MARK WITH_VOICED_SOUND_MARK_UPPER_HALF
VIETNAMESE_ALTERNATE_READING_MARK_: CA NHAY YI_RADICAL_: BBUT BUR CHE CIP CUOP CY CYP CYT DDUR DU GA
GEP GGOP GGUO GOT HMO HXIT HXOP HXUO JJIE JJUT JJY JO KE KIT LI LIE LYR MI MOP NBIE NYIP NYOP NZUP
OP PUT PYT QOT SHAT SHOP SHUR SHY SSI TAT TU VEP VUR WO YIT YO ZA ZOT ZUP ZUR ZZIET YI_SYLLABLE_: A
AP AT AX BA BAP BAT BAX BBA BBAP BBAT BBAX BBE BBEP BBEX BBI BBIE BBIEP BBIET BBIEX BBIP BBIT BBIX
BBO BBOP BBOT BBOX BBU BBUO BBUOP BBUOX BBUP BBUR BBURX BBUT BBUX BBY BBYP BBYT BBYX BE BEP BEX BI
BIE BIEP BIET BIEX BIP BIT BIX BO BOP BOT BOX BU BUO BUOP BUOX BUP BUR BURX BUT BUX BY BYP BYR BYRX
BYT BYX CA CAP CAT CAX CE CEP CEX CHA CHAP CHAT CHAX CHE CHEP CHET CHEX CHO CHOP CHOT CHOX CHU CHUO
CHUOP CHUOT CHUOX CHUP CHUR CHURX CHUX CHY CHYP CHYR CHYRX CHYT CHYX CI CIE CIEP CIET CIEX CIP CIT
CIX CO COP COT COX CU CUO CUOP CUOX CUP CUR CURX CUT CUX CY CYP CYR CYRX CYT CYX DA DAP DAT DAX DDA
DDAP DDAT DDAX DDE DDEP DDEX DDI DDIE DDIEP DDIEX DDIP DDIT DDIX DDO DDOP DDOT DDOX DDU DDUO DDUOP
DDUOX DDUP DDUR DDURX DDUT DDUX DE DEP DEX DI DIE DIEP DIEX DIP DIT DIX DO DOP DOT DOX DU DUO DUOX
DUP DUR DURX DUT DUX E EX FA FAP FAT FAX FI FIP FIT FIX FO FOP FOX FU FUP FUR FURX FUT FUX FY FYP
FYT FYX GA GAP GAT GAX GE GEP GET GEX GGA GGAP GGAT GGAX GGE GGEP GGET GGEX GGI GGIE GGIEP GGIEX
GGIT GGIX GGO GGOP GGOT GGOX GGU GGUO GGUOP GGUOT GGUOX GGUP GGUR GGURX GGUT GGUX GI GIE GIEP GIET
GIEX GIP GIT GIX GO GOP GOT GOX GU GUO GUOP GUOT GUOX GUP GUR GURX GUT GUX HA HAP HAT HAX HE HEP HEX
HIE HIEX HIT HLA HLAP HLAT HLAX HLE HLEP HLEX HLI HLIE HLIEP HLIEX HLIP HLIT HLIX HLO HLOP HLOX HLU
HLUO HLUOP HLUOX HLUP HLUR HLURX HLUT HLUX HLY HLYP HLYR HLYRX HLYT HLYX HMA HMAP HMAT HMAX HMI HMIE
HMIEP HMIEX HMIP HMIT HMIX HMO HMOP HMOT HMOX HMU HMUO HMUOP HMUOX HMUP HMUR HMURX HMUT HMUX HMY
HMYP HMYR HMYRX HMYX HNA HNAP HNAT HNAX HNE HNEP HNEX HNI HNIE HNIEP HNIET HNIEX HNIP HNIT HNIX HNOP
HNOT HNOX HNUO HNUOX HNUT HO HOP HOT HOX HUO HUOP HUOT HUOX HXA HXAP HXAT HXAX HXE HXEP HXEX HXI
HXIE HXIEP HXIET HXIEX HXIP HXIT HXIX HXO HXOP HXOT HXOX HXUO HXUOP HXUOT HXUOX I IE IEP IET IEX IP
IT IX JI JIE JIEP JIET JIEX JIP JIT JIX JJI JJIE JJIEP JJIET JJIEX JJIP JJIT JJIX JJO JJOP JJOT JJOX
JJU JJUO JJUOP JJUOX JJUP JJUR JJURX JJUT JJUX JJY JJYP JJYT JJYX JO JOP JOT JOX JU JUO JUOP JUOT
JUOX JUP JUR JURX JUT JUX JY JYP JYR JYRX JYT JYX KA KAP KAT KAX KE KEP KET KEX KI KIE KIEP KIEX KIP
KIT KIX KO KOP KOT KOX KU KUO KUOP KUOX KUP KUR KURX KUT KUX LA LAP LAT LAX LE LEP LEX LI LIE LIEP
LIET LIEX LIP LIT LIX LO LOP LOT LOX LU LUO LUOP LUOT LUOX LUP LUR LURX LUT LUX LY LYP LYR LYRX LYT
LYX MA MAP MAT MAX ME MEX MGA MGAP MGAT MGAX MGE MGEP MGEX MGIE MGIEX MGO MGOP MGOT MGOX MGU MGUO
MGUOP MGUOX MGUP MGUR MGURX MGUT MGUX MI MIE MIEP MIEX MIP MIT MIX MO MOP MOT MOX MU MUO MUOP MUOT
MUOX MUP MUR MURX MUT MUX MY MYP MYT MYX NA NAP NAX NBA NBAP NBAT NBAX NBI NBIE NBIEP NBIEX NBIP
NBIT NBIX NBO NBOP NBOT NBOX NBU NBUP NBUR NBURX NBUT NBUX NBY NBYP NBYR NBYRX NBYT NBYX NDA NDAP
NDAT NDAX NDE NDEP NDEX NDI NDIE NDIEX NDIP NDIT NDIX NDO NDOP NDOT NDOX NDU NDUP NDUR NDURX NDUT
NDUX NE NEP NEX NGA NGAP NGAT NGAX NGE NGEP NGEX NGIE NGIEP NGIEX NGO NGOP NGOT NGOX NGUO NGUOT
NGUOX NI NIE NIEP NIEX NIP NIT NIX NJI NJIE NJIEP NJIET NJIEX NJIP NJIT NJIX NJO NJOP NJOT NJOX NJU
NJUO NJUOX NJUP NJUR NJURX NJUX NJY NJYP NJYR NJYRX NJYT NJYX NO NOP NOT NOX NRA NRAP NRAT NRAX NRE
NREP NRET NREX NRO NROP NROX NRU NRUP NRUR NRURX NRUT NRUX NRY NRYP NRYR NRYRX NRYT NRYX NU NUO NUOP
NUOX NUP NUR NURX NUT NUX NYI NYIE NYIEP NYIET NYIEX NYIP NYIT NYIX NYO NYOP NYOT NYOX NYU NYUO
NYUOP NYUOX NYUP NYUT NYUX NZA NZAP NZAT NZAX NZE NZEX NZI NZIE NZIEP NZIEX NZIP NZIT NZIX NZOP NZOX
NZU NZUO NZUOX NZUP NZUR NZURX NZUX NZY NZYP NZYR NZYRX NZYT NZYX O OP OT OX PA PAP PAT PAX PI PIE
PIEP PIEX PIP PIT PIX PO POP POT POX PU PUO PUOP PUOX PUP PUR PURX PUT PUX PY PYP PYR PYRX PYT PYX
QI QIE QIEP QIET QIEX QIP QIT QIX QO QOP QOT QOX QU QUO QUOP QUOT QUOX QUP QUR QURX QUT QUX QY QYP
QYR QYRX QYT QYX RA RAP RAT RAX RE REP REX RO ROP ROT ROX RRA RRAX RRE RREP RRET RREX RRO RROP RROT
RROX RRU RRUO RRUOX RRUP RRUR RRURX RRUT RRUX RRY RRYP RRYR RRYRX RRYT RRYX RU RUO RUOP RUOX RUP RUR
RURX RUT RUX RY RYP RYR RYRX RYT RYX SA SAP SAT SAX SE SEP SEX SHA SHAP SHAT SHAX SHE SHEP SHET SHEX
SHO SHOP SHOT SHOX SHU SHUO SHUOP SHUOX SHUP SHUR SHURX SHUT SHUX SHY SHYP SHYR SHYRX SHYT SHYX SI
SIE SIEP SIEX SIP SIT SIX SO SOP SOT SOX SSA SSAP SSAT SSAX SSE SSEP SSEX SSI SSIE SSIEP SSIEX SSIP
SSIT SSIX SSO SSOP SSOT SSOX SSU SSUP SSUT SSUX SSY SSYP SSYR SSYRX SSYT SSYX SU SUO SUOP SUOX SUP
SUR SURX SUT SUX SY SYP SYR SYRX SYT SYX TA TAP TAT TAX TE TEP TEX TI TIE TIEP TIEX TIP TIT TIX TO
TOP TOT TOX TU TUO TUOP TUOT TUOX TUP TUR TURX TUT TUX UO UOP UOX VA VAP VAT VAX VEP VEX VI VIE VIEP
VIET VIEX VIP VIT VIX VO VOP VOT VOX VU VUP VUR VURX VUT VUX VY VYP VYR VYRX VYT VYX WA WAP WAT WAX
WE WEP WEX WO WOP WOX WU WUO WUOP WUOX XI XIE XIEP XIET XIEX XIP XIT XIX XO XOP XOT XOX XUO XUOX XY
XYP XYR XYRX XYT XYX YI YIE YIEP YIET YIEX YIP YIT YIX YO YOP YOT YOX YU YUO YUOP YUOT YUOX YUP YUR
YURX YUT YUX YY YYP YYR YYRX YYT YYX ZA ZAP ZAT ZAX ZE ZEP ZEX ZHA ZHAP ZHAT ZHAX ZHE ZHEP ZHET ZHEX
ZHO ZHOP ZHOT ZHOX ZHU ZHUO ZHUOP ZHUOX ZHUP ZHUR ZHURX ZHUT ZHUX ZHY ZHYP ZHYR ZHYRX ZHYT ZHYX ZI
ZIE ZIEP ZIEX ZIP ZIT ZIX ZO ZOP ZOT ZOX ZU ZUO ZUOP ZUOX ZUP ZUR ZURX ZUT ZUX ZY ZYP ZYR ZYRX ZYT
ZYX ZZA ZZAP ZZAT ZZAX ZZE ZZEP ZZEX ZZI ZZIE ZZIEP ZZIET ZZIEX ZZIP ZZIT ZZIX ZZO ZZOP ZZOX ZZU
ZZUP ZZUR ZZURX ZZUX ZZY ZZYP ZZYR ZZYRX ZZYT ZZYX
"

end Sabotage.Text.CharacterName

/-!
# Old scripts

Scripts beyond the first plane, most of them no longer in use.
-/

namespace Sabotage.Text.CharacterName

/-- The listing of these names. -/
def oldScriptNames : String := "
: AHOM_SYMBOL_VI ASCIA_SYMBOL AVESTAN_ABBREVIATION_MARK BASSA_VAH_FULL_STOP
CAUCASIAN_ALBANIAN_CITATION_MARK COMBINING_BINDU_BELOW COPTIC_EPACT_THOUSANDS_MARK
DOGRA_ABBREVIATION_SIGN ELYMAIC_LIGATURE_ZAYIN-YODH IMPERIAL_ARAMAIC_SECTION_SIGN LISU_LETTER_YHA
LYDIAN_TRIANGULAR_MARK MANICHAEAN_SIGN_UD MULTANI_SECTION_MARK NABATAEAN_CRUCIFORM_NUMBER_FOUR
NANDINAGARI_HEADSTROKE NOMISMA_SIGN OLD_PERSIAN_WORD_DIVIDER PHOENICIAN_WORD_SEPARATOR
SMALL_TWO_DOTS_OVER_ONE_DOT_PUNCTUATION SOGDIAN_INDEPENDENT_SHIN TAKRI_ABBREVIATION_SIGN
TINY_TWO_DOTS_OVER_ONE_DOT_PUNCTUATION UGARITIC_WORD_DIVIDER WARANG_CITI_OM YEZIDI_HYPHENATION_MARK
AEGEAN_: CHECK_MARK DRY_MEASURE_FIRST_SUBUNIT LIQUID_MEASURE_FIRST_SUBUNIT MEASURE_SECOND_SUBUNIT
MEASURE_THIRD_SUBUNIT AEGEAN_NUMBER_: EIGHT EIGHT_HUNDRED EIGHT_THOUSAND EIGHTY EIGHTY_THOUSAND
FIFTY FIFTY_THOUSAND FIVE FIVE_HUNDRED FIVE_THOUSAND FORTY FORTY_THOUSAND FOUR FOUR_HUNDRED
FOUR_THOUSAND NINE NINE_HUNDRED NINE_THOUSAND NINETY NINETY_THOUSAND ONE ONE_HUNDRED ONE_THOUSAND
SEVEN SEVEN_HUNDRED SEVEN_THOUSAND SEVENTY SEVENTY_THOUSAND SIX SIX_HUNDRED SIX_THOUSAND SIXTY
SIXTY_THOUSAND TEN TEN_THOUSAND THIRTY THIRTY_THOUSAND THREE THREE_HUNDRED THREE_THOUSAND TWENTY
TWENTY_THOUSAND TWO TWO_HUNDRED TWO_THOUSAND AEGEAN_WEIGHT_: BASE_UNIT FIRST_SUBUNIT FOURTH_SUBUNIT
SECOND_SUBUNIT THIRD_SUBUNIT AEGEAN_WORD_SEPARATOR_: DOT LINE AHOM_CONSONANT_SIGN_MEDIAL_: LA
LIGATING_RA RA AHOM_DIGIT_: BHAIKSUKI_DIGIT_: BRAHMI_DIGIT_: CHAKMA_DIGIT_: DIVES_AKURU_DIGIT_:
GUNJALA_GONDI_DIGIT_: HANIFI_ROHINGYA_DIGIT_: KHUDAWADI_DIGIT_: MASARAM_GONDI_DIGIT_: MODI_DIGIT_:
MRO_DIGIT_: NEWA_DIGIT_: OSMANYA_DIGIT_: PAHAWH_HMONG_DIGIT_: SHARADA_DIGIT_: SORA_SOMPENG_DIGIT_:
TAKRI_DIGIT_: TANGSA_DIGIT_: TIRHUTA_DIGIT_: WARANG_CITI_DIGIT_: EIGHT FIVE FOUR NINE ONE SEVEN SIX
THREE TWO ZERO AHOM_LETTER_: A BA BHA CA CHA DA DDA DDHA DHA GA GHA HA JA JHA KA KHA LA LLA MA NA
NGA NNA NYA PA PHA RA SA TA THA TTA TTHA AHOM_LETTER_ALTERNATE_: BA GA TA AHOM_NUMBER_: TEN TWENTY
AHOM_SIGN_: KILLER RULAI SECTION SMALL_SECTION AHOM_VOWEL_SIGN_: A AA AI AM AW E I II O U UU
ANATOLIAN_HIEROGLYPH_: A001 A002 A003 A004 A005 A006 A007 A008 A009 A010 A010A A011 A012 A013 A014
A015 A016 A017 A018 A019 A020 A021 A022 A023 A024 A025 A026 A026A A027 A028 A029 A030 A031 A032 A033
A034 A035 A036 A037 A038 A039 A039A A040 A041 A041A A042 A043 A044 A045 A045A A046 A046A A046B A047
A048 A049 A050 A051 A052 A053 A054 A055 A056 A057 A058 A059 A060 A061 A062 A063 A064 A065 A066 A066A
A066B A066C A067 A068 A069 A070 A071 A072 A073 A074 A075 A076 A077 A078 A079 A080 A081 A082 A083
A084 A085 A086 A087 A088 A089 A090 A091 A092 A093 A094 A095 A096 A097 A097A A098 A098A A099 A100
A100A A101 A101A A102 A102A A103 A104 A104A A104B A104C A105 A105A A105B A106 A107 A107A A107B A107C
A108 A109 A110 A110A A110B A111 A112 A113 A114 A115 A115A A116 A117 A118 A119 A120 A121 A122 A123
A124 A125 A125A A126 A127 A128 A129 A130 A131 A132 A133 A134 A135 A135A A136 A137 A138 A139 A140
A141 A142 A143 A144 A145 A146 A147 A148 A149 A150 A151 A152 A153 A154 A155 A156 A157 A158 A159 A160
A161 A162 A163 A164 A165 A166 A167 A168 A169 A170 A171 A172 A173 A174 A175 A176 A177 A178 A179 A180
A181 A182 A183 A184 A185 A186 A187 A188 A189 A190 A191 A192 A193 A194 A195 A196 A197 A198 A199 A200
A201 A202 A202A A202B A203 A204 A205 A206 A207 A207A A208 A209 A209A A210 A211 A212 A213 A214 A215
A215A A216 A216A A217 A218 A219 A220 A221 A222 A223 A224 A225 A226 A227 A227A A228 A229 A230 A231
A232 A233 A234 A235 A236 A237 A238 A239 A240 A241 A242 A243 A244 A245 A246 A247 A248 A249 A250 A251
A252 A253 A254 A255 A256 A257 A258 A259 A260 A261 A262 A263 A264 A265 A266 A267 A267A A268 A269 A270
A271 A272 A273 A274 A275 A276 A277 A278 A279 A280 A281 A282 A283 A284 A285 A286 A287 A288 A289 A289A
A290 A291 A292 A293 A294 A294A A295 A296 A297 A298 A299 A299A A300 A301 A302 A303 A304 A305 A306
A307 A308 A309 A309A A310 A311 A312 A313 A314 A315 A316 A317 A318 A319 A320 A321 A322 A323 A324 A325
A326 A327 A328 A329 A329A A330 A331 A332A A332B A332C A333 A334 A335 A336 A336A A336B A336C A337
A338 A339 A340 A341 A342 A343 A344 A345 A346 A347 A348 A349 A350 A351 A352 A353 A354 A355 A356 A357
A358 A359 A359A A360 A361 A362 A363 A364 A364A A365 A366 A367 A368 A368A A369 A370 A371 A371A A372
A373 A374 A375 A376 A377 A378 A379 A380 A381 A381A A382 A383_RA_OR_RI A383A A384 A385 A386 A386A
A387 A388 A389 A390 A391 A392 A393_EIGHT A394 A395 A396 A397 A398 A399 A400 A401 A402 A403 A404 A405
A406 A407 A408 A409 A410_BEGIN_LOGOGRAM_MARK A410A_END_LOGOGRAM_MARK A411 A412 A413 A414 A415 A416
A417 A418 A419 A420 A421 A422 A423 A424 A425 A426 A427 A428 A429 A430 A431 A432 A433 A434 A435 A436
A437 A438 A439 A440 A441 A442 A443 A444 A445 A446 A447 A448 A449 A450 A450A A451 A452 A453 A454 A455
A456 A457 A457A A458 A459 A460 A461 A462 A463 A464 A465 A466 A467 A468 A469 A470 A471 A472 A473 A474
A475 A476 A477 A478 A479 A480 A481 A482 A483 A484 A485 A486 A487 A488 A489 A490 A491 A492 A493 A494
A495 A496 A497 A501 A502 A503 A504 A505 A506 A507 A508 A509 A510 A511 A512 A513 A514 A515 A516 A517
A518 A519 A520 A521 A522 A523 A524 A525 A526 A527 A528 A529 A530 AVESTAN_LETTER_: A AA AAN AAO AE
AEE AN AO BE BHE CE DE DHE E EE FE GE GGE GHE HE HME I II JE KE LE ME NE NGE NGVE NGYE NNE NYE O OO
PE RE SE SHE SHYE SSHE TE THE TTE U UU VE XE XVE XYE YE YYE ZE ZHE BAMUM_LETTER_PHASE-A_: FIRI
GBIEE_FON GHEUAEGHEUAE GHEUAERAE KAFA KAQ KET KEUKEUTNDA KPOQ KUOQ LAPAQ LET_KUT LOMMAE LU LUAEP
MAEKEUP MAEM MAEMBGBIEE MAEMKPEN MAEMVEUX MAENYI MAESI MANSUAE MAP_PIEET MBANYI MBAQ MEUNJOMNDEUQ
MGBASA MON_NGGEUAET MOOMEUT MOOMPUQ MVEUAENGAM NAA_MFON NAQ NDA_LEERAEWA NDAANGGEUAET NEN NGANGU
NGGEN NGKUE_MFON NGKUENZEUM NIKA NJAM NKAARAE NKINDI NSHA NSHIEE NTAP NTAP_MFAA NTAP_NTAA NTOQPEN
NYET NYI NYIT_MONGKEUAEQ NZA_MFON NZUN_MEUT PA_LEERAEWA PAAM PAARAE PAMSHAE PASHAE PET
PON_MFON_PIPAEMBA PON_MFON_PIPAEMGBIEE PON_PA_NJI_PIPAEMBA PON_PA_NJI_PIPAEMGBIEE PUP ROM SEUNYAM
SHINDA_PA_NJI SHIRAE SHOQ_NSHUT_YUM SHUENSHUET SHUM SISA SONJAM SOQ SOT SUU TEUAEN TEUTEUWEN
TITA_MFON TU_MAEMBA TUAEP U_YUQ_NAE UNKNOWN VEE BAMUM_LETTER_PHASE-B_: FEE FEUX GHEUGHEN GHEUGHEUAEM
KAM KEUAEM KEUPUQ KEUYEUX KIEEM KIQ LAANAE LAM_NSHUT_NYAM LET LOM_NTEUM MA MA_NJEUAENA MA_NJUQA
MBA_MAELEE MBAARAE MBEURI MBIT_MBAAKET MBUOQ MEUQ MEUT_NGGEET MFIYAQ MFON_TEUAEQ MONTIEEN NDU_NJAA
NGGAAM NGGEU_MBU NGGUOQ NGGUOQ_LARGE NGKINDI_MVOP NGOM NSEN NSHUET NTIEE_SHEUOQ NYAEMAE NYI_NTEUM
PARUM PEESHI PIT PUNGAAM SAKEUAE SET_TU SHET_NJAQ SHEUAEQTU SIEE SUE TAAM TU_MAEMGBIEE TU_NSIEE VEUM
WUAET YAFU_LEERAEWA YEURAE BAMUM_LETTER_PHASE-C_: BUNG FUE GBAYI GHAP GHARAE KAA KEN_FATIGUE KEN_LAW
KET KEUKAQ KEUM KEUSEUX KEUSHEUAEP KPARAQ KUOP_NKAARAE KUT LAM LAP LIQ LU MA_KEUAERI MA_NSIEE MAEMBA
MAESI MBAA_CABBAGE-TREE MBAA_PICKET MBANYI MBEEKEET MBERAE MBEUM MBEUX MBI MBIRIEEN MBIT MBUAEM MBUE
MGBASAQ MIEE MUAE NANSANAQ NAQ NDAM NDAP NDEUAEREE NDEUT NDIDA NDOMBU NGAQ NGGEN NGGU NGGUAEN_NYAM
NGGUEET NGGUM NGGUON NGKAQ NGKUE_MAEMBA NGOM NJAEM NJAM NJEEEE NJEUX NJUEQ NSA NSEUAEN NSHAQ NSOM
NSUN NSUOT_NGOM NTAA NTEN NTEUNGBA NTU_MBIT NYIR_MKPARAQ_MEUN NZA NZEUM PEN PIN PIRIEEN RU SETFON
SEUX SHIQ SHUEQ SUAET TAASHAE TET TEUTEUX TITA_YUE TITUAEP VEUAEPEN VEUX WANGKUOQ WUP YAA YEUQ
YU_MUOMAE YUM YUWOQ BAMUM_LETTER_PHASE-D_: FAA FEUFEUAET GHAA GHEUAE KET KEUAETMEUN KEUM KEUOT_MBUAE
KEUP KU KUN KUOM KUQ KWAET KYEE LEEEE LET LEUAEP LEUM LIEE LOQ LUM M MAENJET MALEERI MBAA MBAA_SEVEN
MBUO MEEEE MEUN MEUT MFEUAE MFEUT MFIEE MFO MFON MGBEUN MGBIEE MGBOFUM MONI MU MVOP NDAM NDEE NDEUX
NDON NGGAAM NGGAAMAE NGGAP NGGEUX NGGUOM NGGWAEN NGKAP NGKEUAEQ NGKEURI NGKIEE NGKUN NGKYEE NI NJAP
NJEUAEM NJEUT NJI NJIEE NJUEQ NSHEE NSHUT NSIEEP NSIEET NSUM NTEE NTEUM NTUU NU NYAM NYET NYI NYUE
PAP PEE PEUTAE PIP PUQ PUUT RAEM REN_MUCH REN_OLD RII SAP SAQ SEUAEQ SHEE SHEUAE SHEUX SHII SHOQ SHU
SOT SUAE SUE SUU TAE TEEEE TEUAEN TEUN TEUT TI TOQ TU TUOT WAP WUAEN YAEMMAE YEN YUOM YUOP YUWOQ
BAMUM_LETTER_PHASE-E_: A FA FAQ FEE FOM FU_CALL FU_I FU_REMEDY FUE FUET GBET GBEUX GHAAMAE GHET
GHEUAE GHEUN GHEUX GHOM I KET KEUAE KEUX KI KO KPEUX KUET KUOP KUT LAAM LAP LAQ LEUAEM LOM LOON LOOT
LOQ LU MA MAE MAEM MAP MAQ MBEE MBEUM MEN MFEUQ MGBA MGBEN MI MIEE MON MUAE MVI NA NAE NDAA_MY_HOUSE
NDAA_SOFTNESS NDAP NDIAQ NDIQ NDUN NGA NGEUREUT NGGEEEE NGGEUAE NGGEUAET NGGUAESHAE_NYAM NGGUP
NGGURAE NGKA NGKAAMI NGKEUAEM NGKEUX NGKUM NGKUP NGOP NGOQ NGUAE NGUAET NJAEMLI NJEE NJEE_EPOCH
NJEUX NKOM NSHIEE NSHUE NSHUOP NTAP NTUM NYI_BETWEEN NYI_CLEAVER NZAQ NZUQ O PA_PEOPLE PA_PLURAL PAA
PAAM PEEM PEUT PEUX PI PIEEQ PIET PO POON PU PUAE PUAQ PUE PUM RAE RAQ REUX RIMGBA SAA SEE SET
SHEUAEQ SHIQ SHO SHOQ SOM SUAEN TAA TAAQ TAEN_NTEUM TAM TAQ TEN TEU TEUAEQ TOO TOON TOQ TUAE TUM
TUMAE VEE VEUAE VOM WEUX WUE WUO YAP YEUAE YEUAET YEUM YEUX YIEE YIT YOQ_COVER YOQ_SWIMMING YUAEN
YUEQ YUN YUQ BAMUM_LETTER_PHASE-F_: EE FOM KA KEN KET KO KPA KU KYEE LA LI LOQ M MA MBAA MBEN MEEEE
MO NDAA NGGA NGKWAEN NI NJAEM NJUAE NSHA NTEE NU NUAE NYI PEE PEUX PUAE REE REN REUX RIEE RII RU
SAMBA SEUX SHII SHO SHU SI SUU TAA TAE TET U VUEQ WA WUE YA YOQ BASSA_VAH_COMBINING_: HIGH_TONE
HIGH-LOW_TONE LOW_TONE LOW-MID_TONE MID_TONE BASSA_VAH_LETTER_: A BA CE DHII DO E EE ENNI FA GAH GBU
HWAH I JO KA KPAH MBE O OO PA SE TO U UWU VU WA WADDA YEIN YIE ZO BHAIKSUKI_: DANDA DOUBLE_DANDA
GAP_FILLER-1 GAP_FILLER-2 HUNDREDS_UNIT_MARK WORD_SEPARATOR BHAIKSUKI_LETTER_: A AA AI AU BA BHA CA
CHA DA DDA DDHA DHA E GA GHA HA I II JA JHA KA KHA LA MA NA NGA NNA NYA O PA PHA RA SA SHA SSA TA
THA TTA TTHA U UU VA VOCALIC_L VOCALIC_R VOCALIC_RR YA BHAIKSUKI_NUMBER_: EIGHT EIGHTY FIFTY FIVE
FORTY FOUR NINE NINETY ONE SEVEN SEVENTY SIX SIXTY TEN THIRTY THREE TWENTY TWO BHAIKSUKI_SIGN_:
ANUSVARA AVAGRAHA CANDRABINDU VIRAMA VISARGA BHAIKSUKI_VOWEL_SIGN_: AA AI AU E I II O U UU VOCALIC_L
VOCALIC_R VOCALIC_RR BRAHMI_: DANDA DOUBLE_DANDA VIRAMA BRAHMI_LETTER_: MODI_LETTER_:
SHARADA_LETTER_: A AA AI AU BA BHA CA CHA DA DDA DDHA DHA E GA GHA HA I II JA JHA KA KHA LA LLA MA
NA NGA NNA NYA O PA PHA RA SA SHA SSA TA THA TTA TTHA U UU VA YA BRAHMI_LETTER_OLD_TAMIL_: LLA LLLA
NNNA RRA SHORT_E SHORT_O BRAHMI_LETTER_VOCALIC_: BRAHMI_VOWEL_SIGN_VOCALIC_:
GRANTHA_LETTER_VOCALIC_: GRANTHA_VOWEL_SIGN_VOCALIC_: MODI_LETTER_VOCALIC_:
MODI_VOWEL_SIGN_VOCALIC_: NEWA_LETTER_VOCALIC_: NEWA_VOWEL_SIGN_VOCALIC_: SHARADA_LETTER_VOCALIC_:
SHARADA_VOWEL_SIGN_VOCALIC_: SIDDHAM_LETTER_VOCALIC_: TIRHUTA_LETTER_VOCALIC_:
TIRHUTA_VOWEL_SIGN_VOCALIC_: L LL R RR BRAHMI_NUMBER_: EIGHT EIGHTY FIFTY FIVE FORTY FOUR JOINER
NINE NINETY ONE ONE_HUNDRED ONE_THOUSAND SEVEN SEVENTY SIX SIXTY TEN THIRTY THREE TWENTY TWO
BRAHMI_PUNCTUATION_: CRESCENT_BAR DOT DOUBLE_DOT LINE LOTUS BRAHMI_SIGN_: ANUSVARA CANDRABINDU
JIHVAMULIYA OLD_TAMIL_VIRAMA UPADHMANIYA VISARGA BRAHMI_VOWEL_SIGN_: AA AI AU BHATTIPROLU_AA E I II
O OLD_TAMIL_SHORT_E OLD_TAMIL_SHORT_O U UU CANADIAN_SYLLABICS_: SPA SPE SPI SPO
CANADIAN_SYLLABICS_NATTILIK_: HA HAA HI HII HO HOO SHRA SHRAA SHRI SHRII SHRO SHROO CARIAN_LETTER_:
A A2 B C-18 C-39 D D2 E E2 G G2 I II K K2 L LD LD2 M MB MB2 MB3 MB4 N ND NG NN O P P2 Q R RR S SH
SH2 SS ST ST2 T TT TT2 U UU UUU UUU2 UUU3 UUUU X CAUCASIAN_ALBANIAN_LETTER_: ALT AOR BET CAR CAYN
CHA CHAT CHI CHOY CYAW CYAY DAT DYAN DZAY DZYAY EB EYN FAM GHEYS GIM HEYT INYA IRB IWN JAYN JHOX KAR
KIW LAN LYIT MAQ NOWC ON PEN PIWR QAR QAY RAT SEYK SHA SHAK SHOY TAS TIWR TYAY VEYZ XEYN YAYD YOWD
ZARL ZHA ZHIL CHAKMA_: AU_MARK DANDA DOUBLE_DANDA MAAYYAA O_MARK QUESTION_MARK SECTION_MARK VIRAMA
CHAKMA_LETTER_: AA BAA BHAA CAA CHAA DAA DDAA DDHAA DHAA E GAA GHAA HAA I JAA JHAA KAA KHAA LAA LHAA
MAA NAA NGAA NNAA NYAA PAA PHAA RAA SAA TAA THAA TTAA TTHAA U VAA WAA YAA YYAA CHAKMA_SIGN_:
ANUSVARA CANDRABINDU VISARGA CHAKMA_VOWEL_SIGN_: A AA AI AU E EI I II O OI U UU CHORASMIAN_LETTER_:
ALEPH AYIN BETH CURLED_WAW DALETH GIMEL HE HETH KAPH LAMEDH MEM NUN PE RESH SAMEKH SHIN SMALL_ALEPH
TAW WAW YODH ZAYIN CHORASMIAN_NUMBER_: PSALTER_PAHLAVI_NUMBER_: FOUR ONE ONE_HUNDRED TEN THREE
TWENTY TWO COMBINING_GRANTHA_DIGIT_: FIVE FOUR ONE SIX THREE TWO ZERO COMBINING_GRANTHA_LETTER_: A
KA NA PA VI COMBINING_OLD_PERMIC_LETTER_: AN DOI NENOE SII ZATA COPTIC_EPACT_DIGIT_: RUMI_DIGIT_:
SINHALA_ARCHAIC_DIGIT_: EIGHT FIVE FOUR NINE ONE SEVEN SIX THREE TWO COPTIC_EPACT_NUMBER_:
RUMI_NUMBER_: EIGHT_HUNDRED EIGHTY FIFTY FIVE_HUNDRED FORTY FOUR_HUNDRED NINE_HUNDRED NINETY
ONE_HUNDRED SEVEN_HUNDRED SEVENTY SIX_HUNDRED SIXTY TEN THIRTY THREE_HUNDRED TWENTY TWO_HUNDRED
CUNEIFORM_NUMERIC_SIGN_: ELAMITE_FIFTY ELAMITE_FORTY ELAMITE_ONE_THIRD ELAMITE_TWO_THIRDS NIGIDAESH
NIGIDAMIN NINE_ASH NINE_DISH NINE_GESH2 NINE_SHAR2 NINE_U NINE_U_VARIANT_FORM
OLD_ASSYRIAN_ONE_QUARTER OLD_ASSYRIAN_ONE_SIXTH SHAR2_TIMES_GAL_PLUS_DISH SHAR2_TIMES_GAL_PLUS_MIN
CUNEIFORM_NUMERIC_SIGN_EIGHT_: ASH DISH GESH2 SHAR2 U U_VARIANT_FORM VARIANT_FORM_USSU
VARIANT_FORM_USSU3 CUNEIFORM_NUMERIC_SIGN_FIVE_: ASH ASH_TENU BAN2 BAN2_VARIANT_FORM BURU DISH GESH2
GESHU SHAR2 SHARU SIXTHS_DISH U U_VARIANT_FORM CUNEIFORM_NUMERIC_SIGN_FOUR_: ASH ASH_TENU BAN2
BAN2_VARIANT_FORM BURU DISH GESH2 GESHU SHAR2 SHARU U U_VARIANT_FORM
CUNEIFORM_NUMERIC_SIGN_FOUR_VARIANT_FORM_: LIMMU LIMMU_A LIMMU_B LIMMU4
CUNEIFORM_NUMERIC_SIGN_NINE_VARIANT_FORM_: ILIMMU ILIMMU_A ILIMMU3 ILIMMU4
CUNEIFORM_NUMERIC_SIGN_ONE_: BAN2 BURU EIGHTH_ASH ESHE3 GESH2 GESHU HALF_GUR QUARTER_ASH QUARTER_GUR
SHARU THIRD_DISH THIRD_VARIANT_FORM_A CUNEIFORM_NUMERIC_SIGN_SEVEN_: ASH DISH GESH2 SHAR2 U
U_VARIANT_FORM VARIANT_FORM_IMIN_A VARIANT_FORM_IMIN_B VARIANT_FORM_IMIN3
CUNEIFORM_NUMERIC_SIGN_SIX_: ASH ASH_TENU DISH GESH2 SHAR2 U U_VARIANT_FORM VARIANT_FORM_ASH9
CUNEIFORM_NUMERIC_SIGN_THREE_: ASH ASH_TENU BAN2 BURU BURU_VARIANT_FORM DISH GESH2 GESHU SHAR2
SHAR2_VARIANT_FORM SHARU SHARU_VARIANT_FORM VARIANT_FORM_ESH16 VARIANT_FORM_ESH21
CUNEIFORM_NUMERIC_SIGN_TWO_: ASH ASH_TENU BAN2 BURU ESHE3 GESH2 GESHU SHAR2 SHARU THIRDS_DISH
THIRDS_VARIANT_FORM_A CUNEIFORM_PUNCTUATION_SIGN_: DIAGONAL_COLON DIAGONAL_QUADCOLON
DIAGONAL_TRICOLON OLD_ASSYRIAN_WORD_DIVIDER VERTICAL_COLON CUNEIFORM_SIGN_: A A2 AB AB_GUNU AB2 AD
AD_TIMES_ESH2 AK AK_TIMES_ERIN2 AK_TIMES_SHITA_PLUS_GISH AL ALAN ALEPH AMAR AMAR_TIMES_KUG
AMAR_TIMES_SHE AN AN_OVER_AN AN_PLUS_NAGA_OPPOSING_AN_PLUS_NAGA AN_PLUS_NAGA_SQUARED AN_THREE_TIMES
ANSHE APIN ARAD ARAD_TIMES_KUR ARKAB ASAL2 ASH ASH_KABA_TENU ASH_ZIDA_TENU ASH2 ASHGAB BA BAD
BAD_TIMES_DISH_TENU BAG3 BAHAR2 BAL BAL_OVER_BAL BALAG BAR BARA2 BI BU BU_CROSSING_BU BULUG
BULUG_OVER_BULUG BUR BUR2 DA DA_TIMES_TAK4 DAG DAG_TIMES_KUR DAG3 DAM DAR DARA3 DARA4 DI DIB DIM
DIM2 DIM2_TIMES_UD DIN DIN_KASKAL_U_GUNU_DISH DISH DISH_PLUS_SHU DU DU_GUNU DU_OVER_DU DU_SHESHIG
DUB DUB_TIMES_ESH2 DUB_TIMES_SHE DUB2 DUG DUGUD DUH DUN DUN3 DUN3_GUNU DUN3_GUNU_GUNU DUN4 DUR2 E
E_OVER_E_NUN_OVER_NUN E_TIMES_PAP E2 EDIN EGIR EL EN EN_CROSSING_EN EN_OPPOSING_EN EN_SQUARED EREN
ERIN2 ERIN2_X ESH2 ESH2_CROSSING_ESH2 EZEN GA GA_GUNU GA2 GA2_OVER_GA2 GABA GABA_CROSSING_GABA
GABA_ROTATED_NINETY_DEGREES GAD GAD_OVER_GAD_GAR_OVER_GAR GAL GAL_GAD_OVER_GAD_GAR_OVER_GAR GALAM
GAM GAN GAN2 GAN2_CROSSING_GAN2 GAN2_OVER_GAN2 GAN2_TENU GAR GAR3 GASHAN GE22 GESHTIN
GESHTIN_TIMES_KUR GESHTIN_TIMES_U GI GI_CROSSING_GI GI_TIMES_E GI_TIMES_U GI4 GI4_CROSSING_GI4
GI4_OVER_GI4 GIDIM GIG GIR2 GIR2_GUNU GIR3 GISAL GISH GISH_CROSSING_GISH GISH_TENU GU GU_CROSSING_GU
GU2 GU2_GUNU GUD GUD_OVER_GUD_LUGAL GUD_PLUS_GISH_TIMES_TAK4 GUD_TIMES_A_PLUS_KUR GUD_TIMES_KUR GUL
GUM GUM_TIMES_SHE GUR GUR7 GURUN GURUSH HA HA_GUNU HA_TENU HA_TENU_GUNU HAL HI HU HUB2 HUL2 HUSH I
I_A IB IDIM IDIM_OVER_IDIM_BUR IDIM_OVER_IDIM_SQUARED IG IGI IGI_DIB IGI_GUNU
IGI_OVER_IGI_SHIR_OVER_SHIR_UD_OVER_UD IGI_RI IL IL_TIMES_GAN2_TENU IL2 IM IM_CROSSING_IM
IM_OPPOSING_IM IM_SQUARED IM_TIMES_TAK4 IMIN IN IR ISH KA KA2 KA2_CROSSING_KA2 KAB KAD2 KAD3 KAD4
KAD5 KAD5_OVER_KAD5 KAK KAK_TIMES_IGI_GUNU KAL KAL_CROSSING_KAL KAL_TIMES_BAD KAM2 KAM4 KAP_ELAMITE
KASKAL KASKAL_LAGAB_TIMES_U_OVER_LAGAB_TIMES_U KASKAL_OVER_KASKAL_LAGAB_TIMES_U_OVER_LAGAB_TIMES_U
KESH2 KI KID KIN KISAL KISH KISIM5 KISIM5_OVER_KISIM5 KU KU_OVER_HI_TIMES_ASH2_KU_OVER_HI_TIMES_ASH2
KU3 KU4 KU4_VARIANT_FORM KU7 KUL KUL_GUNU KUN KUR KUR_OPPOSING_KUR KUSHU2 KWU318 LA LAGAB
LAGAB_SQUARED LAGAR LAHSHU LAL LAL_TIMES_LAL LAM LAM_TIMES_KUR LAM_TIMES_KUR_PLUS_RU LI LIL LIMMU2
LISH LU LU_TIMES_BAD LU2 LU3 LUGAL LUGAL_OPPOSING_LUGAL LUGAL_OVER_LUGAL LUGAL_SHESHIG LUH LUL LUM
LUM_OVER_LUM LUM_OVER_LUM_GAR_OVER_GAR MA MA_GUNU MA_TIMES_TAK4 MA2 MAH MAR MASH MASH2 ME MES MESH
MI MI_PLUS_ZA7 MIN MU MU_OVER_MU MUG MUG_GUNU MUNSUB MURGU2 MUSH MUSH_CROSSING_MUSH MUSH_OVER_MUSH
MUSH3 MUSH3_GUNU NA NA2 NA4 NAGA NAGA_INVERTED NAGA_OPPOSING_NAGA NAGA_TIMES_SHU_TENU NAGAR NAM
NAM_NUTILLU NAM2 NE NE_SHESHIG NE_TIMES_A NE_TIMES_UD NI NI_TIMES_E NI2 NIM NIM_TIMES_GAN2_TENU
NIM_TIMES_GAR_PLUS_GAN2_TENU NIN NIN9 NINDA2 NISAG NU NU11 NU11_ROTATED_NINETY_DEGREES NUN
NUN_CROSSING_NUN NUN_CROSSING_NUN_LAGAR_OVER_LAGAR NUN_OVER_NUN NUN_TENU NUNUZ PA PAD PAN PAP PESH2
PESH2_ASTERISK PI PI_CROSSING_PI PIR2 PIRIG PIRIG_OPPOSING_PIRIG RA RAB RI RU SA SAG SAG_GUNU
SAG_GUNU_TIMES_HA SAG_NUTILLU SAG_OVER_SAG SAL SAL_LAGAB_TIMES_ASH2 SANGA2 SAR SHA SHA3 SHA6
SHA6_TENU SHAB6 SHAR2 SHE SHEG9 SHEN SHESH SHESH2 SHESHLAM SHID SHID_TIMES_A SHID_TIMES_IM SHIM
SHINIG SHIR SHIR_OVER_SHIR_BUR_OVER_BUR SHIR_TENU SHITA SHU SHU_OVER_INVERTED_SHU SHU2
SHU2_PLUS_DUG_TIMES_NI SHU2_PLUS_E2_TIMES_AN SHUBUR SI SI_GUNU SI_TIMES_TAK4 SIG SIG4
SIG4_OVER_SIG4_SHU2 SIK2 SILA3 SU SU_OVER_SU SUD SUD2 SUHUR SUM SUMASH SUR SUR9 TA TA_ASTERISK
TA_GUNU TA_TIMES_HI TA_TIMES_MI TAB TAB_OVER_TAB_NI_OVER_NI_DISH_OVER_DISH TAB_SQUARED TAG TAK4
TAK4_PLUS_SAG TAR TE TE_GUNU TI TI_TENU TI2 TIL TIR TIR_OVER_TIR
TIR_OVER_TIR_GAD_OVER_GAD_GAR_OVER_GAR TIR_TIMES_TAK4 TU TUG2 TUK TUM TUM_TIMES_GAN2_TENU
TUM_TIMES_THREE_DISH TUR TUR_OVER_TUR_ZA_OVER_ZA U U_GUD U_U U_U_U U2 UB UD UD_GUNU UD_KUSHU2
UD_SHESHIG UD_SHESHIG_TIMES_BAD UDUG UM UMBIN UMUM UMUM_TIMES_KASKAL UMUM_TIMES_PA UN UN_GUNU UR
UR_CROSSING_UR UR_SHESHIG UR2 UR2_INVERTED UR4 URI URI3 URU URUDA URUDA_TIMES_U USH USH2 USHUMX USHX
UTUKI UZ3 UZ3_TIMES_KASKAL UZU ZA ZA_SQUARED_TIMES_KUR ZA_TENU ZA7 ZAG ZAMX ZE2 ZI ZI_OVER_ZI ZI3
ZIB ZIB_KABA_TENU ZIG ZIZ2 ZU ZU_OVER_ZU_PLUS_SAR ZU5 ZU5_TIMES_A ZU5_TIMES_THREE_DISH_TENU ZUBUR
ZUM CUNEIFORM_SIGN_A_TIMES_: A BAD GAN2_TENU HA IGI LAGAR_GUNU MUSH SAG CUNEIFORM_SIGN_AB_TIMES_:
ASH2 DUN3_GUNU GAL GAN2_TENU HA IGI_GUNU IMIN LAGAB NUN NUN_TENU SHESH SHU2 U_PLUS_U_PLUS_U
CUNEIFORM_SIGN_AB2_TIMES_: A BALAG GAN2_TENU ME_PLUS_EN SHA3 TAK4 CUNEIFORM_SIGN_AL_TIMES_: AL DIM2
GISH HA KAD3 KI SHE USH CUNEIFORM_SIGN_ASH_OVER_ASH_: OVER_ASH
OVER_ASH_CROSSING_ASH_OVER_ASH_OVER_ASH TUG2_OVER_TUG2_TUG2_OVER_TUG2_PAP
CUNEIFORM_SIGN_BAHAR2_TIMES_: AB2 NI ZA CUNEIFORM_SIGN_BI_TIMES_: A GAR IGI_GUNU
CUNEIFORM_SIGN_BU_OVER_BU_: AB TIMES_NA2 UN CUNEIFORM_SIGN_DAG_KISIM5_TIMES_: A_PLUS_MASH AMAR BALAG
BI GA GA_PLUS_MASH GI GIR2 GUD HA IR IR_PLUS_LU KAK LA LU LU_PLUS_MASH2 LUM NE PAP_PLUS_PAP SI TAK4
U2_PLUS_GIR2 U2_PLUS_MASH USH CUNEIFORM_SIGN_DIM_TIMES_: IGI SHE U_U_U CUNEIFORM_SIGN_DUG_TIMES_:
ANSHE ASH ASH_AT_LEFT DIN DUN ERIN2 GA GI GIR2_GUNU GISH HA HI IGI_GUNU KASKAL KUR KUSHU2
KUSHU2_PLUS_KASKAL LAK-020 LAM LAM_TIMES_KUR LUH_PLUS_GISH MASH MES MI NI PI SHE SI_GUNU
CUNEIFORM_SIGN_E2_TIMES_: A_PLUS_HA_PLUS_DA GAR KUR MI PAP SAL SHE U CUNEIFORM_SIGN_EN_TIMES_: GAN2
GAN2_TENU ME CUNEIFORM_SIGN_EZEN_SHESHIG_TIMES_: ASH HI IGI_GUNU LA LAL ME MES SU
CUNEIFORM_SIGN_EZEN_TIMES_: A A_PLUS_LAL A_PLUS_LAL_TIMES_LAL AN BAD DUN3_GUNU DUN3_GUNU_GUNU GUD HA
HA_GUNU IGI_GUNU KASKAL KASKAL_SQUARED KU3 LA LAL_TIMES_LAL LI LU SHE SU U2 UD
CUNEIFORM_SIGN_GA2_TIMES_: A_PLUS_DA_PLUS_HA A_PLUS_HA A_PLUS_IGI AB2_TENU_PLUS_TAB AN
AN_PLUS_KAK_PLUS_A ASH ASH2 ASH2_PLUS_GAL BAD BAHAR2 BAR_PLUS_RA BUR BUR_PLUS_RA DA DI DIM_GUNU
DIM_TIMES_SHE DUB DUG_TIMES_IGI_GUNU DUG_TIMES_KASKAL EL EL_PLUS_LA EN EN_TIMES_GAN2_TENU EREN GA
GAN2_TENU GAR GAR_PLUS_DI GAR_PLUS_NE GI GI4 GI4_PLUS_A GIR2_PLUS_SU HA_PLUS_A HA_PLUS_LU_PLUS_ESH2
HAL HAL_PLUS_LA HI_PLUS_LI HUB2 IGI_GUNU ISH_PLUS_HU_PLUS_ASH KAK KASKAL KID KID_PLUS_LAL
KU3_PLUS_AN KUSHU2_PLUS_KASKAL LA LAM LAM_TIMES_KUR LUH ME_PLUS_EN MI MUSH NE NE_PLUS_E2 NE_PLUS_GI
NUN NUN_OVER_NUN PA SAL SAR SHE SHE_PLUS_TUR SHID SHIM SUM TAK4 U UD UD_PLUS_DU ZIZ2
CUNEIFORM_SIGN_GIR3_TIMES_: A_PLUS_IGI GAN2_TENU IGI LU_PLUS_IGI PA CUNEIFORM_SIGN_GISH_TIMES_: BAD
GISH_CROSSING_GISH TAK4 CUNEIFORM_SIGN_GU2_TIMES_: IGI_GUNU KAK KAK_TIMES_IGI_GUNU NUN SAL_PLUS_TUG2
CUNEIFORM_SIGN_HI_TIMES_: ASH ASH_OVER_HI_TIMES_ASH ASH2 BAD DISH GAD KIN NUN SHE U
CUNEIFORM_SIGN_HUB2_TIMES_: AN HAL KASKAL LISH UD CUNEIFORM_SIGN_KA_TIMES_: A AD AD_PLUS_KU3 ANSHE
ASH2 ASH3 BAD BALAG BAR BI BU ERIN2 ESH2 GA GAL GAN2_TENU GAR GAR_PLUS_SHA3_PLUS_A GI GIR2 GISH
GISH_CROSSING_GISH GISH_PLUS_SAR GU GUD GUR7 HI_TIMES_ASH2 IGI IM KA KAK KI KID LI LU LUM ME
ME_PLUS_DU ME_PLUS_GI ME_PLUS_TE MI MI_PLUS_NUNUZ NE NUN PA PI RU SA SAR SHA SHE SHID SHU SHUL SIG
SUHUR TAR TU U U_U_U U2 UD UMUM_TIMES_PA UR UR2 USH ZI CUNEIFORM_SIGN_KI_TIMES_: BAD U UD
CUNEIFORM_SIGN_LAGAB_TIMES_: A A_PLUS_DA_PLUS_HA A_PLUS_GAR A_PLUS_LAL AL AN ASH_ZIDA_TENU BAD BI
DAR EN GA GAR GI GUD GUD_PLUS_GUD HA HAL HI_TIMES_NUN IGI_GUNU IM IM_PLUS_HA IM_PLUS_LU KI KIN KU3
KUL KUL_PLUS_HI_PLUS_A LAGAB LISH LU LUL ME ME_PLUS_EN MUSH NE SHE_PLUS_SUM
SHITA_PLUS_GISH_PLUS_ERIN2 SHITA_PLUS_GISH_TENU SHU2 SHU2_PLUS_SHU2 SUM TAG TAK4
TE_PLUS_A_PLUS_SU_PLUS_NA U U_PLUS_A U_PLUS_U_PLUS_U U2_PLUS_ASH UD USH ZU_OVER_ZU
CUNEIFORM_SIGN_LAGAR_: GUNU GUNU_OVER_LAGAR_GUNU_SHE TIMES_SHE TIMES_SHE_PLUS_SUM
CUNEIFORM_SIGN_LAK-: 003 021 025 030 050 051 062 079_OVER_LAK-079_GUNU 080 081_OVER_LAK-081 092 130
142 210 219 220 225 228 238 265 266 343 347 348 383 384 390 441 449 450 457 470 483 490 492 493 495
550 608 617 636 648 724 749 CUNEIFORM_SIGN_LAK-449_TIMES_: GU IGI PAP_PLUS_LU3 PAP_PLUS_PAP_PLUS_LU3
U2_PLUS_BA CUNEIFORM_SIGN_LAK-617_TIMES_: ASH BAD DUN3_GUNU_GUNU KU3 LA TAR TE U2 UD URUDA
CUNEIFORM_SIGN_LAK-648_TIMES_: DUB GA IGI IGI_GUNU NI PAP_PLUS_PAP_PLUS_LU3 SHESH_PLUS_KI UD URUDA
CUNEIFORM_SIGN_LU2_: CROSSING_LU2 GUNU_TIMES_ASH OPPOSING_LU2 SHESHIG SHESHIG_TIMES_BAD SQUARED TENU
CUNEIFORM_SIGN_LU2_TIMES_: AL BAD DISH ESH2 ESH2_PLUS_LAL ESH2_TENU GAN2_TENU HAL HI_TIMES_BAD IM
KAD2 KAD3 KAD3_PLUS_ASH KI LA_PLUS_ASH LAGAB ME_PLUS_EN NE NU PAP PAP_PLUS_PAP_PLUS_LU3 SHU
SI_PLUS_ASH SIK2_PLUS_BU TAK4 TUG2 CUNEIFORM_SIGN_MUSH_OVER_MUSH_TIMES_: A_PLUS_NA GA KAK
CUNEIFORM_SIGN_MUSH_TIMES_: A KUR ZA CUNEIFORM_SIGN_MUSH3_TIMES_: A A_PLUS_DI DI ZA
CUNEIFORM_SIGN_NINDA2_TIMES_: AN ASH ASH_PLUS_ASH BAL DIM_GUNU GI GISH GUD GUL HI KESH2 LAK-050 MASH
ME_PLUS_GAN2_TENU NE NUN PAP_PLUS_PAP SHE SHE_PLUS_A_AN SHE_PLUS_ASH SHE_PLUS_ASH_PLUS_ASH U
U_PLUS_U U2_PLUS_ASH URUDA USH CUNEIFORM_SIGN_NUN_LAGAR_TIMES_: GAR MASH SAL
SAL_OVER_NUN_LAGAR_TIMES_SAL USH CUNEIFORM_SIGN_NUNUZ_AB2_TIMES_: ASHGAB BI DUG GUD IGI_GUNU KAD3 LA
NE SILA3 U2 CUNEIFORM_SIGN_NUNUZ_KISIM5_TIMES_: BI BI_U CUNEIFORM_SIGN_PI_TIMES_: A AB BI BU E I IB
U U2 CUNEIFORM_SIGN_PIRIG_TIMES_: KAL UD ZA CUNEIFORM_SIGN_SAG_TIMES_: A DU DUB EN HA IGI_GUNU KAK
KUR LUM MI NUN SAL SHE_AT_LEFT SHID TAB TAK4 U2 UB UM UR USH CUNEIFORM_SIGN_SHA3_TIMES_: A BAD GISH
NE SHU2 TUR U U_PLUS_A CUNEIFORM_SIGN_SHE_: HU OVER_SHE OVER_SHE_GAD_OVER_GAD_GAR_OVER_GAR
OVER_SHE_TAB_OVER_TAB_GAR_OVER_GAR PLUS_HUB2 PLUS_NAM2 PLUS_SAR CUNEIFORM_SIGN_SHIM_TIMES_: A BAL
BULUG DIN GAR IGI IGI_GUNU KUSHU2 LUL MUG SAL CUNEIFORM_SIGN_TAG_TIMES_: BI GUD SHE SHU TUG2 UD
CUNEIFORM_SIGN_U_OVER_U_: PA_OVER_PA_GAR_OVER_GAR SUR_OVER_SUR U_REVERSED_OVER_U_REVERSED
CUNEIFORM_SIGN_UD_TIMES_: BAD MI U_PLUS_U_PLUS_U U_PLUS_U_PLUS_U_GUNU CUNEIFORM_SIGN_UM_TIMES_:
LAGAB ME ME_PLUS_DA SHA3 U CUNEIFORM_SIGN_UR2_TIMES_: A_PLUS_HA A_PLUS_NA AL HA NUN U2 U2_PLUS_ASH
U2_PLUS_BI UD CUNEIFORM_SIGN_URU_TIMES_: A ASHGAB BAR DARA3 DUN GA GAL GAN2_TENU GAR GU HA IGI IM
ISH KI LAK-668 LU3 LUM MIN PA SHE SIG4 TU U_PLUS_GUD UD URUDA CUNEIFORM_SIGN_USH_TIMES_: A KU KUR
TAK4 CYPRIOT_SYLLABLE_: A E I JA JO KA KE KI KO KU LA LE LI LO LU MA ME MI MO MU NA NE NI NO NU O PA
PE PI PO PU RA RE RI RO RU SA SE SI SO SU TA TE TI TO TU U WA WE WI WO XA XE ZA ZO
CYPRO-MINOAN_SIGN_: CM001 CM002 CM004 CM005 CM006 CM007 CM008 CM009 CM010 CM011 CM012 CM012B CM013
CM015 CM017 CM019 CM021 CM023 CM024 CM025 CM026 CM027 CM028 CM029 CM030 CM033 CM034 CM035 CM036
CM037 CM038 CM039 CM040 CM041 CM044 CM046 CM047 CM049 CM050 CM051 CM052 CM053 CM054 CM055 CM056
CM058 CM059 CM060 CM061 CM062 CM063 CM064 CM066 CM067 CM068 CM069 CM070 CM071 CM072 CM073 CM074
CM075 CM075B CM076 CM078 CM079 CM080 CM081 CM082 CM083 CM084 CM085 CM086 CM087 CM088 CM089 CM090
CM091 CM092 CM094 CM095 CM096 CM097 CM098 CM099 CM100 CM101 CM102 CM103 CM104 CM105 CM107 CM108
CM109 CM110 CM112 CM114 CM301 CM302 DESERET_CAPITAL_LETTER_: AY BEE CHEE DEE EF EL EM EN ENG ER ES
ESH ETH EW GAY H JEE KAY LONG_A LONG_AH LONG_E LONG_I LONG_O LONG_OO OI OW PEE TEE THEE VEE WU YEE
ZEE ZHEE DESERET_CAPITAL_LETTER_SHORT_: DESERET_SMALL_LETTER_LONG_: DESERET_SMALL_LETTER_SHORT_: A
AH E I O OO DESERET_SMALL_LETTER_: AY BEE CHEE DEE EF EL EM EN ENG ER ES ESH ETH EW GAY H JEE KAY OI
OW PEE TEE THEE VEE WU YEE ZEE ZHEE DIVES_AKURU_: DOUBLE_DANDA END_OF_TEXT_MARK GAP_FILLER
INITIAL_RA MEDIAL_RA MEDIAL_YA PREFIXED_NASAL_SIGN VIRAMA DIVES_AKURU_LETTER_: A AA BA BHA CA CHA DA
DDA DDHA DHA E GA GHA HA I II JA KA KHA LA LLA MA NA NGA NNA NYA O PA PHA RA SA SHA SSA TA THA TTA U
UU VA YA YYA ZA DIVES_AKURU_SIGN_: ANUSVARA CANDRABINDU HALANTA NUKTA DIVES_AKURU_VOWEL_SIGN_: AA AI
E I II O U UU DOGRA_LETTER_: A AA AI AU BA BHA CA CHA DA DDA DDHA DHA E GA GHA HA I II JA JHA KA KHA
LA MA NA NGA NNA NYA O PA PHA RA RRA SA SHA SSA TA THA TTA TTHA U UU VA YA DOGRA_SIGN_: TAKRI_SIGN_:
ANUSVARA NUKTA VIRAMA VISARGA DOGRA_VOWEL_SIGN_: AA AI AU E I II O U UU VOCALIC_R VOCALIC_RR
EGYPTIAN_HIEROGLYPH_: A001 A002 A003 A004 A005 A005A A006 A006A A006B A007 A008 A009 A010 A011 A012
A013 A014 A014A A015 A016 A017 A017A A018 A019 A020 A021 A022 A023 A024 A025 A026 A027 A028 A029
A030 A031 A032 A032A A033 A034 A035 A036 A037 A038 A039 A040 A040A A041 A042 A042A A043 A043A A044
A045 A045A A046 A047 A048 A049 A050 A051 A052 A053 A054 A055 A056 A057 A058 A059 A060 A061 A062 A063
A064 A065 A066 A067 A068 A069 A070 AA001 AA002 AA003 AA004 AA005 AA006 AA007 AA007A AA007B AA008
AA009 AA010 AA011 AA012 AA013 AA014 AA015 AA016 AA017 AA018 AA019 AA020 AA021 AA022 AA023 AA024
AA025 AA026 AA027 AA028 AA029 AA030 AA031 AA032 B001 B002 B003 B004 B005 B005A B006 B007 B008 B009
BEGIN_SEGMENT C001 C002 C002A C002B C002C C003 C004 C005 C006 C007 C008 C009 C010 C010A C011 C012
C013 C014 C015 C016 C017 C018 C019 C020 C021 C022 C023 C024 D001 D002 D003 D004 D005 D006 D007 D008
D008A D009 D010 D011 D012 D013 D014 D015 D016 D017 D018 D019 D020 D021 D022 D023 D024 D025 D026 D027
D027A D028 D029 D030 D031 D031A D032 D033 D034 D034A D035 D036 D037 D038 D039 D040 D041 D042 D043
D044 D045 D046 D046A D047 D048 D048A D049 D050 D050A D050B D050C D050D D050E D050F D050G D050H D050I
D051 D052 D052A D053 D054 D054A D055 D056 D057 D058 D059 D060 D061 D062 D063 D064 D065 D066 D067
D067A D067B D067C D067D D067E D067F D067G D067H E001 E002 E003 E004 E005 E006 E007 E008 E008A E009
E009A E010 E011 E012 E013 E014 E015 E016 E016A E017 E017A E018 E019 E020 E020A E021 E022 E023 E024
E025 E026 E027 E028 E028A E029 E030 E031 E032 E033 E034 E034A E036 E037 E038 END_SEGMENT F001 F001A
F002 F003 F004 F005 F006 F007 F008 F009 F010 F011 F012 F013 F013A F014 F015 F016 F017 F018 F019 F020
F021 F021A F022 F023 F024 F025 F026 F027 F028 F029 F030 F031 F031A F032 F033 F034 F035 F036 F037
F037A F038 F038A F039 F040 F041 F042 F043 F044 F045 F045A F046 F046A F047 F047A F048 F049 F050 F051
F051A F051B F051C F052 F053 G001 G002 G003 G004 G005 G006 G006A G007 G007A G007B G008 G009 G010 G011
G011A G012 G013 G014 G015 G016 G017 G018 G019 G020 G020A G021 G022 G023 G024 G025 G026 G026A G027
G028 G029 G030 G031 G032 G033 G034 G035 G036 G036A G037 G037A G038 G039 G040 G041 G042 G043 G043A
G044 G045 G045A G046 G047 G048 G049 G050 G051 G052 G053 G054 H001 H002 H003 H004 H005 H006 H006A
H007 H008 HORIZONTAL_JOINER I001 I002 I003 I004 I005 I005A I006 I007 I008 I009 I009A I010 I010A I011
I011A I012 I013 I014 I015 K001 K002 K003 K004 K005 K006 K007 K008 L001 L002 L002A L003 L004 L005
L006 L006A L007 L008 M001 M001A M001B M002 M003 M003A M004 M005 M006 M007 M008 M009 M010 M010A M011
M012 M012A M012B M012C M012D M012E M012F M012G M012H M013 M014 M015 M015A M016 M016A M017 M017A M018
M019 M020 M021 M022 M022A M023 M024 M024A M025 M026 M027 M028 M028A M029 M030 M031 M031A M032 M033
M033A M033B M034 M035 M036 M037 M038 M039 M040 M040A M041 M042 M043 M044 N001 N002 N003 N004 N005
N006 N007 N008 N009 N010 N011 N012 N013 N014 N015 N016 N017 N018 N018A N018B N019 N020 N021 N022
N023 N024 N025 N025A N026 N027 N028 N029 N030 N031 N032 N033 N033A N034 N034A N035 N035A N036 N037
N037A N038 N039 N040 N041 N042 NL001 NL002 NL003 NL004 NL005 NL005A NL006 NL007 NL008 NL009 NL010
NL011 NL012 NL013 NL014 NL015 NL016 NL017 NL017A NL018 NL019 NL020 NU001 NU002 NU003 NU004 NU005
NU006 NU007 NU008 NU009 NU010 NU010A NU011 NU011A NU012 NU013 NU014 NU015 NU016 NU017 NU018 NU018A
NU019 NU020 NU021 NU022 NU022A O001 O001A O002 O003 O004 O005 O005A O006 O006A O006B O006C O006D
O006E O006F O007 O008 O009 O010 O010A O010B O010C O011 O012 O013 O014 O015 O016 O017 O018 O019 O019A
O020 O020A O021 O022 O023 O024 O024A O025 O025A O026 O027 O028 O029 O029A O030 O030A O031 O032 O033
O033A O034 O035 O036 O036A O036B O036C O036D O037 O038 O039 O040 O041 O042 O043 O044 O045 O046 O047
O048 O049 O050 O050A O050B O051 OVERLAY_MIDDLE P001 P001A P002 P003 P003A P004 P005 P006 P007 P008
P009 P010 P011 Q001 Q002 Q003 Q004 Q005 Q006 Q007 R001 R002 R002A R003 R003A R003B R004 R005 R006
R007 R008 R009 R010 R010A R011 R012 R013 R014 R015 R016 R016A R017 R018 R019 R020 R021 R022 R023
R024 R025 R026 R027 R028 R029 S001 S002 S002A S003 S004 S005 S006 S006A S007 S008 S009 S010 S011
S012 S013 S014 S014A S014B S015 S016 S017 S017A S018 S019 S020 S021 S022 S023 S024 S025 S026 S026A
S026B S027 S028 S029 S030 S031 S032 S033 S034 S035 S035A S036 S037 S038 S039 S040 S041 S042 S043
S044 S045 S046 T001 T002 T003 T003A T004 T005 T006 T007 T007A T008 T008A T009 T009A T010 T011 T011A
T012 T013 T014 T015 T016 T016A T017 T018 T019 T020 T021 T022 T023 T024 T025 T026 T027 T028 T029 T030
T031 T032 T032A T033 T033A T034 T035 T036 U001 U002 U003 U004 U005 U006 U006A U006B U007 U008 U009
U010 U011 U012 U013 U014 U015 U016 U017 U018 U019 U020 U021 U022 U023 U023A U024 U025 U026 U027 U028
U029 U029A U030 U031 U032 U032A U033 U034 U035 U036 U037 U038 U039 U040 U041 U042 V001 V001A V001B
V001C V001D V001E V001F V001G V001H V001I V002 V002A V003 V004 V005 V006 V007 V007A V007B V008 V009
V010 V011 V011A V011B V011C V012 V012A V012B V013 V014 V015 V016 V017 V018 V019 V020 V020A V020B
V020C V020D V020E V020F V020G V020H V020I V020J V020K V020L V021 V022 V023 V023A V024 V025 V026 V027
V028 V028A V029 V029A V030 V030A V031 V031A V032 V033 V033A V034 V035 V036 V037 V037A V038 V039 V040
V040A VERTICAL_JOINER W001 W002 W003 W003A W004 W005 W006 W007 W008 W009 W009A W010 W010A W011 W012
W013 W014 W014A W015 W016 W017 W017A W018 W018A W019 W020 W021 W022 W023 W024 W024A W025 X001 X002
X003 X004 X004A X004B X005 X006 X006A X007 X008 X008A Y001 Y001A Y002 Y003 Y004 Y005 Y006 Y007 Y008
Z001 Z002 Z002A Z002B Z002C Z002D Z003 Z003A Z003B Z004 Z004A Z005 Z005A Z006 Z007 Z008 Z009 Z010
Z011 Z012 Z013 Z014 Z015 Z015A Z015B Z015C Z015D Z015E Z015F Z015G Z015H Z015I Z016 Z016A Z016B
Z016C Z016D Z016E Z016F Z016G Z016H EGYPTIAN_HIEROGLYPH_INSERT_AT_: BOTTOM_END BOTTOM_START TOP_END
TOP_START ELBASAN_LETTER_: A BE CE CHE DE DHE E EI FE GE GHAMMA GHE GJE HE I JE KE KHE LE LLE ME NA
NDE NE NJE O PE QE RE RRE SE SHE TE THE U VE XE Y ZE ZHE ELYMAIC_LETTER_: IMPERIAL_ARAMAIC_LETTER_:
INSCRIPTIONAL_PARTHIAN_LETTER_: NABATAEAN_LETTER_: ALEPH AYIN BETH DALETH GIMEL HE HETH KAPH LAMEDH
MEM NUN PE QOPH RESH SADHE SAMEKH SHIN TAW TETH WAW YODH ZAYIN GOTHIC_LETTER_: AHSA AIHVUS BAIRKAN
DAGS EIS FAIHU GIBA HAGL HWAIR IGGWS IUJA JER KUSMA LAGUS MANNA NAUTHS NINE_HUNDRED NINETY OTHAL
PAIRTHRA QAIRTHRA RAIDA SAUIL TEIWS THIUTH URUS WINJA GRANTHA_: AU_LENGTH_MARK OM GRANTHA_LETTER_: A
AA AI AU BA BHA CA CHA DA DDA DDHA DHA EE GA GHA HA I II JA JHA KA KHA LA LLA MA NA NGA NNA NYA OO
PA PHA RA SA SHA SSA TA THA TTA TTHA U UU VA VEDIC_ANUSVARA VEDIC_DOUBLE_ANUSVARA YA GRANTHA_SIGN_:
ANUSVARA AVAGRAHA CANDRABINDU COMBINING_ANUSVARA_ABOVE NUKTA PLUTA VIRAMA VISARGA
GRANTHA_VOWEL_SIGN_: GUNJALA_GONDI_VOWEL_SIGN_: AA AI AU EE I II OO U UU GREEK_: AROURA_SIGN
ARTABE_SIGN DRACHMA_SIGN FIVE_OBOLS_SIGN FOUR_OBOLS_SIGN GRAMMA_SIGN INDICTION_SIGN
KYATHOS_BASE_SIGN LITRA_SIGN METRETES_SIGN OBOL_SIGN ONE_QUARTER_SIGN OUNKIA_SIGN SINUSOID_SIGN
SYMBOL_TAU_RHO TALENT_SIGN THREE_OBOLS_SIGN THREE_QUARTERS_SIGN TRYBLION_BASE_SIGN TWO_OBOLS_SIGN
TWO_THIRDS_SIGN XESTES_SIGN YEAR_SIGN ZERO_SIGN GREEK_ACROPHONIC_: CARYSTIAN_FIVE_HUNDRED
CYRENAIC_TWO_DRACHMAS DELPHIC_FIVE_MNAS HERAEUM_ONE_PLETHRON MESSENIAN_TEN NAXIAN_FIVE_HUNDRED
STRATIAN_FIFTY_MNAS GREEK_ACROPHONIC_ATTIC_: FIFTY FIFTY_STATERS FIFTY_TALENTS FIFTY_THOUSAND
FIFTY_THOUSAND_STATERS FIVE ONE_DRACHMA ONE_HALF ONE_HUNDRED_STATERS ONE_HUNDRED_TALENTS ONE_QUARTER
ONE_THOUSAND_STATERS ONE_THOUSAND_TALENTS TEN_MNAS TEN_STATERS TEN_TALENTS TEN_THOUSAND_STATERS
GREEK_ACROPHONIC_ATTIC_FIVE_: HUNDRED HUNDRED_STATERS HUNDRED_TALENTS STATERS TALENTS THOUSAND
THOUSAND_TALENTS GREEK_ACROPHONIC_EPIDAUREAN_: FIVE_HUNDRED TWO TWO_DRACHMAS
GREEK_ACROPHONIC_HERMIONIAN_: FIFTY ONE TEN GREEK_ACROPHONIC_THESPIAN_: FIFTY FIVE_HUNDRED
FIVE_THOUSAND ONE ONE_HUNDRED ONE_THOUSAND TEN THIRTY THREE_HUNDRED TWO
GREEK_ACROPHONIC_TROEZENIAN_: FIFTY FIFTY_ALTERNATE_FORM FIVE FIVE_HUNDRED TEN TEN_ALTERNATE_FORM
GREEK_ONE_HALF_: SIGN SIGN_ALTERNATE_FORM GUNJALA_GONDI_: OM SIGN_ANUSVARA SIGN_VISARGA VIRAMA
GUNJALA_GONDI_LETTER_: A AA AI AU BA BHA CA CHA DA DDA DDHA DHA EE GA GHA HA I II JA JHA KA KHA LA
LLA MA NA NGA OO PA PHA RA SA TA THA TTA TTHA U UU VA YA HANIFI_ROHINGYA_LETTER_: A BA CA DA DDA FA
GA HA JA KA KHA KINNA_WA KINNA_YA LA MA NA NGA NYA PA RA RRA SA SHA TA TTA VA WA YA ZA
HANIFI_ROHINGYA_MARK_: NA_KHONNA SAKIN HANIFI_ROHINGYA_SIGN_: HARBAHAY TAHALA TANA TASSI
HANIFI_ROHINGYA_VOWEL_: A E I O U HATRAN_LETTER_: ALEPH AYN BETH DALETH-RESH GIMEL HE HETH KAPH
LAMEDH MEM NUN PE QOPH SADHE SAMEKH SHIN TAW TETH WAW YODH ZAYN HATRAN_NUMBER_: MANICHAEAN_NUMBER_:
FIVE ONE ONE_HUNDRED TEN TWENTY IMPERIAL_ARAMAIC_NUMBER_: ONE ONE_HUNDRED ONE_THOUSAND TEN
TEN_THOUSAND THREE TWENTY TWO INSCRIPTIONAL_PAHLAVI_LETTER_: ALEPH BETH DALETH GIMEL HE HETH KAPH
LAMEDH MEM-QOPH NUN PE SADHE SAMEKH SHIN TAW TETH WAW-AYIN-RESH YODH ZAYIN
INSCRIPTIONAL_PAHLAVI_NUMBER_: INSCRIPTIONAL_PARTHIAN_NUMBER_: FOUR ONE ONE_HUNDRED ONE_THOUSAND TEN
THREE TWENTY TWO KAITHI_: ABBREVIATION_SIGN DANDA DOUBLE_DANDA DOUBLE_SECTION_MARK ENUMERATION_SIGN
NUMBER_SIGN NUMBER_SIGN_ABOVE SECTION_MARK KAITHI_LETTER_: A AA AI AU BA BHA CA CHA DA DDA DDDHA
DDHA DHA E GA GHA HA I II JA JHA KA KHA LA MA NA NGA NNA NYA O PA PHA RA RHA SA SHA SSA TA THA TTA
TTHA U UU VA YA KAITHI_SIGN_: ANUSVARA CANDRABINDU NUKTA VIRAMA VISARGA KAITHI_VOWEL_SIGN_:
MASARAM_GONDI_VOWEL_SIGN_: AA AI AU E I II O U UU VOCALIC_R KHAROSHTHI_: FRACTION_ONE_HALF VIRAMA
VOWEL_LENGTH_MARK KHAROSHTHI_DIGIT_: FOUR ONE THREE TWO KHAROSHTHI_LETTER_: A BA BHA CA CHA DA DDA
DDHA DHA GA GHA HA JA KA KHA KKA LA MA NA NNA NYA PA PHA RA SA SHA SSA TA THA TTA TTHA TTTA TTTHA VA
VHA YA ZA KHAROSHTHI_NUMBER_: ONE_HUNDRED ONE_THOUSAND TEN TWENTY KHAROSHTHI_PUNCTUATION_: CIRCLE
CRESCENT_BAR DANDA DOT DOUBLE_DANDA LINES LOTUS MANGALAM SMALL_CIRCLE KHAROSHTHI_SIGN_: ANUSVARA
BAR_ABOVE CAUDA DOT_BELOW DOUBLE_RING_BELOW VISARGA KHAROSHTHI_VOWEL_SIGN_: E I O U VOCALIC_R
KHOJKI_: ABBREVIATION_SIGN DANDA DOUBLE_DANDA DOUBLE_SECTION_MARK SECTION_MARK WORD_SEPARATOR
KHOJKI_LETTER_: A AA AI AU BA BBA BHA CA CHA DA DDA DDDA DDHA DHA E GA GGA GHA HA I JA JJA KA KHA LA
LLA MA NA NGA NNA NYA O PA PHA RA SA TA THA TTA TTHA U VA YA KHOJKI_SIGN_: ANUSVARA NUKTA SHADDA
SUKUN VIRAMA KHOJKI_VOWEL_SIGN_: AA AI AU E I II O U KHUDAWADI_LETTER_: A AA AI AU BA BBA BHA CA CHA
DA DDA DDDA DDHA DHA E GA GGA GHA HA I II JA JHA JJA KA KHA LA MA NA NGA NNA NYA O PA PHA RA RRA SA
SHA TA THA TTA TTHA U UU VA YA KHUDAWADI_SIGN_: ANUSVARA NUKTA VIRAMA KHUDAWADI_VOWEL_SIGN_:
MODI_VOWEL_SIGN_: NEWA_VOWEL_SIGN_: TAKRI_VOWEL_SIGN_: AA AI AU E I II O U UU LARGE_ONE_:
DOT_OVER_TWO_DOTS_PUNCTUATION RING_OVER_TWO_RINGS_PUNCTUATION LARGE_TWO_:
DOTS_OVER_ONE_DOT_PUNCTUATION RINGS_OVER_ONE_RING_PUNCTUATION LINEAR_A_SIGN_: A028B A100-102 A120B
A131C A301 A302 A303 A304 A305 A306 A307 A308 A309A A309B A309C A310 A311 A312 A313A A313B A313C
A314 A315 A316 A317 A318 A319 A320 A321 A322 A323 A324 A325 A326 A327 A328 A329 A330 A331 A332 A333
A334 A335 A336 A337 A338 A339 A340 A341 A342 A343 A344 A345 A346 A347 A348 A349 A350 A351 A352 A353
A354 A355 A356 A357 A358 A359 A360 A361 A362 A363 A364 A365 A366 A367 A368 A369 A370 A371 A400-VAS
A401-VAS A402-VAS A403-VAS A404-VAS A405-VAS A406-VAS A407-VAS A408-VAS A409-VAS A410-VAS A411-VAS
A412-VAS A413-VAS A414-VAS A415-VAS A416-VAS A417-VAS A418-VAS A501 A502 A503 A504 A505 A506 A508
A509 A510 A511 A512 A513 A515 A516 A520 A521 A523 A524 A525 A526 A527 A528 A529 A530 A531 A532 A534
A535 A536 A537 A538 A539 A540 A541 A542 A545 A547 A548 A549 A550 A551 A552 A553 A554 A555 A556 A557
A559 A563 A564 A565 A566 A568 A569 A570 A571 A572 A573 A574 A575 A576 A577 A578 A579 A580 A581 A582
A583 A584 A585 A586 A587 A588 A589 A591 A592 A594 A595 A596 A598 A600 A601 A602 A603 A604 A606 A608
A609 A610 A611 A612 A613 A614 A615 A616 A617 A618 A619 A620 A621 A622 A623 A624 A626 A627 A628 A629
A634 A637 A638 A640 A642 A643 A644 A645 A646 A648 A649 A651 A652 A653 A654 A655 A656 A657 A658 A659
A660 A661 A662 A663 A664 A701_A A702_B A703_D A704_E A705_F A706_H A707_J A708_K A709_L A709-2_L2
A709-3_L3 A709-4_L4 A709-6_L6 A710_W A711_X A712_Y A713_OMEGA A714_ABB A715_BB A717_DD A726_EYYY
A732_JE A800 A801 A802 A803 A804 A805 A806 A807 AB001 AB002 AB003 AB004 AB005 AB006 AB007 AB008
AB009 AB010 AB011 AB013 AB016 AB017 AB020 AB021 AB021F AB021M AB022 AB022F AB022M AB023 AB023M AB024
AB026 AB027 AB028 AB029 AB030 AB031 AB034 AB037 AB038 AB039 AB040 AB041 AB044 AB045 AB046 AB047
AB048 AB049 AB050 AB051 AB053 AB054 AB055 AB056 AB057 AB058 AB059 AB060 AB061 AB065 AB066 AB067
AB069 AB070 AB073 AB074 AB076 AB077 AB078 AB079 AB080 AB081 AB082 AB085 AB086 AB087 AB118 AB120
AB122 AB123 AB131A AB131B AB164 AB171 AB180 AB188 AB191 LINEAR_B_IDEOGRAM_: B100_MAN B102_WOMAN
B104_DEER B105_EQUID B105F_MARE B105M_STALLION B106F_EWE B106M_RAM B107F_SHE-GOAT B107M_HE-GOAT
B108F_SOW B108M_BOAR B109F_COW B109M_BULL B120_WHEAT B121_BARLEY B122_OLIVE B123_SPICE B125_CYPERUS
B130_OIL B131_WINE B132 B140_BRONZE B141_GOLD B142 B145_WOOL B146 B150 B151_HORN B152 B153 B154 B157
B158 B159_CLOTH B160 B161 B162_GARMENT B163_ARMOUR B164 B165 B166 B167 B168 B169 B170 B171 B172
B173_MONTH B174 B176_TREE B177 B178 B179 B180 B181 B182 B183 B184 B185 B189 B190 B191_HELMET
B220_FOOTSTOOL B225_BATHTUB B230_SPEAR B231_ARROW B232 B233_SWORD B234 B236 B240_WHEELED_CHARIOT
B241_CHARIOT B242_CHARIOT_FRAME B243_WHEEL B245 B246 B248 B249 B251 B252 B253 B254_DART B255 B256
B257 B258 B259 LINEAR_B_IDEOGRAM_VESSEL_: B155 B200 B201 B202 B203 B204 B205 B206 B207 B208 B209
B210 B211 B212 B213 B214 B215 B216 B217 B218 B219 B221 B222 B226 B227 B228 B229 B250 B305
LINEAR_B_MONOGRAM_: B127_KAPO B128_KANAKO B133_AREPA B135_MERI B156_TURO2 B247_DIPTE
LINEAR_B_SYLLABLE_: B001_DA B002_RO B003_PA B004_TE B005_TO B006_NA B007_DI B008_A B009_SE B010_U
B011_PO B012_SO B013_ME B014_DO B015_MO B016_QA B017_ZA B020_ZO B021_QI B023_MU B024_NE B025_A2
B026_RU B027_RE B028_I B029_PU2 B030_NI B031_SA B032_QO B033_RA3 B036_JO B037_TI B038_E B039_PI
B040_WI B041_SI B042_WO B043_A3 B044_KE B045_DE B046_JE B048_NWA B050_PU B051_DU B052_NO B053_RI
B054_WA B055_NU B057_JA B058_SU B059_TA B060_RA B061_O B062_PTE B065_JU B066_TA2 B067_KI B068_RO2
B069_TU B070_KO B071_DWE B072_PE B073_MI B074_ZE B075_WE B076_RA2 B077_KA B078_QE B080_MA B081_KU
B085_AU B087_TWE B090_DWO B091_TWO LINEAR_B_SYMBOL_: B018 B019 B022 B034 B047 B049 B056 B063 B064
B079 B082 B083 B086 B089 LYCIAN_LETTER_: A AN B BH D E EN G H I J K KK L M MM N NN P Q R S T TH TT U
W X Z LYDIAN_LETTER_: A AN B C D E EN F G I K L LY M N NN O Q R S SS T TT U V Y MAHAJANI_:
ABBREVIATION_SIGN LIGATURE_SHRI SECTION_MARK SIGN_NUKTA MAHAJANI_LETTER_: A BA BHA CA CHA DA DDA
DDHA DHA E GA GHA HA I JA JHA KA KHA LA MA NA NNA NYA O PA PHA RA RRA SA TA THA TTA TTHA U VA
MAKASAR_: ANGKA END_OF_SECTION PASSIMBANG MAKASAR_LETTER_: A BA CA DA GA JA KA LA MA NA NGA NYA PA
RA SA TA VA YA MAKASAR_VOWEL_SIGN_: E I O U MANICHAEAN_ABBREVIATION_MARK_: ABOVE BELOW
MANICHAEAN_LETTER_: AAYIN ALEPH AYIN BETH BHETH DALETH DHAMEDH FE GHIMEL GIMEL HE HETH JAYIN JHAYIN
KAPH KHAPH LAMEDH MEM NUN PE QHOPH QOPH RESH SADHE SAMEKH SHIN SSHIN TAW TETH THAMEDH WAW XAPH XOPH
YODH ZAYIN ZHAYIN MANICHAEAN_PUNCTUATION_: DOT DOT_WITHIN_DOT DOUBLE_DOT_WITHIN_DOT FLEURON
LINE_FILLER STAR TWO_DOTS MARCHEN_: HEAD_MARK LETTER_-A MARK_SHAD SIGN_ANUSVARA SIGN_CANDRABINDU
MARCHEN_LETTER_: MARCHEN_SUBJOINED_LETTER_: A BA CA CHA DA DZA GA HA JA KA KHA LA MA NA NGA NYA PA
PHA RA SA SHA TA THA TSA TSHA WA YA ZA ZHA MARCHEN_VOWEL_SIGN_: AA E I O U MASARAM_GONDI_: RA-KARA
REPHA VIRAMA MASARAM_GONDI_LETTER_: A AA AI AU BA BHA CA CHA DA DDA DDHA DHA E GA GHA HA I II JA JHA
JNYA KA KHA KSSA LA LLA MA NA NGA NNA NYA O PA PHA RA SA SHA SSA TA THA TRA TTA TTHA U UU VA YA
MASARAM_GONDI_SIGN_: ANUSVARA CANDRA HALANTA NUKTA VISARGA MEDEFAIDRIN_: COMMA EXCLAMATION_OH
FULL_STOP SYMBOL_AIVA MEDEFAIDRIN_CAPITAL_LETTER_: MEDEFAIDRIN_SMALL_LETTER_: A AI ATIU B C D E F G
HP I J K KP L M N NY O OE P Q R S T U V W X Y YU Z MEDEFAIDRIN_DIGIT_: EIGHT FIVE FOUR NINE ONE
ONE_ALTERNATE_FORM SEVEN SIX THREE THREE_ALTERNATE_FORM TWO TWO_ALTERNATE_FORM ZERO
MEDEFAIDRIN_NUMBER_: EIGHTEEN ELEVEN FIFTEEN FOURTEEN NINETEEN SEVENTEEN SIXTEEN TEN THIRTEEN TWELVE
MEROITIC_CURSIVE_FRACTION_: EIGHT_TWELFTHS ELEVEN_TWELFTHS FIVE_TWELFTHS FOUR_TWELFTHS NINE_TWELFTHS
ONE_HALF ONE_TWELFTH SEVEN_TWELFTHS SIX_TWELFTHS TEN_TWELFTHS THREE_TWELFTHS TWO_TWELFTHS
MEROITIC_CURSIVE_LETTER_: A ARCHAIC_SA BA DA E HHA I KA KHA LA MA NA NE O PA QA RA SA SE TA TE TO WA
YA MEROITIC_CURSIVE_LOGOGRAM_: IMN RMT MEROITIC_CURSIVE_NUMBER_: EIGHT EIGHT_HUNDRED
EIGHT_HUNDRED_THOUSAND EIGHT_THOUSAND EIGHTY_THOUSAND FIFTY FIFTY_THOUSAND FIVE FIVE_HUNDRED
FIVE_HUNDRED_THOUSAND FIVE_THOUSAND FORTY FORTY_THOUSAND FOUR FOUR_HUNDRED FOUR_HUNDRED_THOUSAND
FOUR_THOUSAND NINE NINE_HUNDRED NINE_HUNDRED_THOUSAND NINE_THOUSAND NINETY_THOUSAND ONE ONE_HUNDRED
ONE_HUNDRED_THOUSAND ONE_THOUSAND SEVEN SEVEN_HUNDRED SEVEN_HUNDRED_THOUSAND SEVEN_THOUSAND SEVENTY
SEVENTY_THOUSAND SIX SIX_HUNDRED SIX_HUNDRED_THOUSAND SIX_THOUSAND SIXTY SIXTY_THOUSAND TEN
TEN_THOUSAND THIRTY THIRTY_THOUSAND THREE THREE_HUNDRED THREE_HUNDRED_THOUSAND THREE_THOUSAND TWENTY
TWENTY_THOUSAND TWO TWO_HUNDRED TWO_HUNDRED_THOUSAND TWO_THOUSAND MEROITIC_HIEROGLYPHIC_LETTER_: A
BA BA-2 DA E HHA I KA KHA LA MA NA NA-2 NE NE-2 O PA QA RA RA-2 SA SA-2 SE TA TA-2 TE TE-2 TO WA YA
MEROITIC_HIEROGLYPHIC_SYMBOL_: VIDJ VIDJ-2 MIAO_LETTER_: AH BA BRI DA DDA DLHA DLHYA DZA DZHA DZYI
DZZA FA GA GHA GHHA HA HHA KA LA LHA LHYA LYA MA MHA NA NASALIZATION NGA NGHA NHA NNA NNHA NYA NYHA
PA PLA QA QGA REFORMED_TSHA RTE SA SHA SSA SYI TA TE TLHA TLHYA TSA TSE TSHA TSSA TTA VA VFA WA XA
ZA ZHA ZSA ZSHA ZZA ZZSA ZZSYA ZZYA MIAO_LETTER_ARCHAIC_: MA NA NGA ZZA MIAO_LETTER_REFORMED_TONE-:
1 2 4 5 6 8 MIAO_LETTER_TONE-: 2 3 4 5 6 7 8 MIAO_LETTER_YI_: DZHA KA NNA PA TA TSA TSHA TTA
MIAO_SIGN_: ASPIRATION CONSONANT_MODIFIER_BAR REFORMED_ASPIRATION REFORMED_VOICING MIAO_TONE_: ABOVE
BELOW RIGHT TOP_RIGHT MIAO_VOWEL_SIGN_: A AA AE AEE AHH AI AN ANG AU E EA EI EN ENG ER ERR I IA IAN
IANG IE IG II ING IO IONG IU N NG O OER OEY OG OO OU ROUNDED_ER ROUNDED_ERR U UA UAN UANG UEI UI UNG
UOG UU VW W WO Y YI YUI MODI_: ABBREVIATION_SIGN DANDA DOUBLE_DANDA MODI_SIGN_: ANUSVARA ARDHACANDRA
HUVA VIRAMA VISARGA MODIFIER_LETTER_: ALVEOLAR_CLICK BILABIAL_CLICK DENTAL_CLICK
GLOTTAL_STOP_WITH_STROKE LATERAL_CLICK RETROFLEX_CLICK_WITH_RETROFLEX_HOOK
REVERSED_GLOTTAL_STOP_WITH_STROKE SUPERSCRIPT_HALF_TRIANGULAR_COLON SUPERSCRIPT_TRIANGULAR_COLON
MODIFIER_LETTER_SMALL_: AE B_WITH_HOOK CLOSED_OMEGA CLOSED_REVERSED_OPEN_E D_WITH_HOOK
D_WITH_HOOK_AND_TAIL D_WITH_TAIL DEZH_DIGRAPH DOTLESS_J_WITH_STROKE_AND_HOOK DZ_DIGRAPH
DZ_DIGRAPH_WITH_CURL DZ_DIGRAPH_WITH_RETROFLEX_HOOK FENG_DIGRAPH G_WITH_HOOK H_WITH_STROKE
HENG_WITH_HOOK L_WITH_BELT L_WITH_RETROFLEX_HOOK_AND_BELT LEZH LEZH_WITH_RETROFLEX_HOOK LS_DIGRAPH
LZ_DIGRAPH O_WITH_STROKE Q R_WITH_FISHHOOK R_WITH_TAIL RAMS_HORN REVERSED_E S_WITH_CURL
T_WITH_RETROFLEX_HOOK TC_DIGRAPH_WITH_CURL TESH_DIGRAPH TS_DIGRAPH TS_DIGRAPH_WITH_RETROFLEX_HOOK
TURNED_R_WITH_LONG_LEG TURNED_R_WITH_LONG_LEG_AND_RETROFLEX_HOOK TURNED_Y TURNED_Y_WITH_BELT
V_WITH_RIGHT_HOOK MODIFIER_LETTER_SMALL_CAPITAL_: AA B G G_WITH_HOOK H L_WITH_BELT OE R Y
MONGOLIAN_: BIRGA_WITH_DOUBLE_ORNAMENT BIRGA_WITH_ORNAMENT DOUBLE_BIRGA_WITH_ORNAMENT INVERTED_BIRGA
INVERTED_BIRGA_WITH_DOUBLE_ORNAMENT ROTATED_BIRGA SWIRL_BIRGA TRIPLE_BIRGA_WITH_ORNAMENT
TURNED_SWIRL_BIRGA_WITH_DOUBLE_ORNAMENT MONGOLIAN_ROTATED_BIRGA_WITH_: MONGOLIAN_SWIRL_BIRGA_WITH_:
DOUBLE_ORNAMENT ORNAMENT MRO_: DANDA DOUBLE_DANDA MRO_LETTER_: A BA CHU DA DAI E EA HAI HAO KEAAE
KHAI KO LA LAN MAEM MIM NGI NIN O OL OO PA PHI RI RO SHI TA TEK THEA WA YO MULTANI_LETTER_: A BA BHA
CA CHA DA DDA DDDA DDHA DHA E GA GHA HA I JA JJA KA KHA LA MA NA NNA NYA PA PHA RA RHA RRA SA TA THA
TTA TTHA U VA YA NABATAEAN_LETTER_FINAL_: ALEPH BETH HE KAPH LAMEDH MEM NUN SHIN YODH
NABATAEAN_NUMBER_: FIVE FOUR ONE ONE_HUNDRED TEN THREE TWENTY TWO NANDINAGARI_LETTER_: A AA AI AU BA
BHA CA CHA DA DDA DDHA DHA E GA GHA HA I II JA JHA KA KHA LA LLA MA NA NGA NNA NYA O PA PHA RA RRA
SA SHA SSA TA THA TTA TTHA U UU VA VOCALIC_R VOCALIC_RR YA NANDINAGARI_SIGN_: ANUSVARA AVAGRAHA
SIDDHAM VIRAMA VISARGA NANDINAGARI_VOWEL_SIGN_: AA AI AU E I II O PRISHTHAMATRA_E U UU VOCALIC_R
VOCALIC_RR NEWA_: ABBREVIATION_SIGN COMMA DANDA DOUBLE_COMMA DOUBLE_DANDA GAP_FILLER INSERTION_SIGN
OM PLACEHOLDER_MARK SANDHI_MARK SIDDHI NEWA_LETTER_: A AA AI AU BA BHA CA CHA DA DDA DDHA DHA E GA
GHA HA I II JA JHA KA KHA LA LHA MA MHA NA NGA NGHA NHA NNA NYA NYHA O PA PHA RA RHA SA SHA SSA TA
THA TTA TTHA U UU VEDIC_ANUSVARA WA YA NEWA_SIGN_: ANUSVARA AVAGRAHA CANDRABINDU FINAL_ANUSVARA
JIHVAMULIYA NUKTA UPADHMANIYA VIRAMA VISARGA OLD_HUNGARIAN_CAPITAL_LETTER_:
OLD_HUNGARIAN_SMALL_LETTER_: A AA AK AMB AND CLOSE_E E EB EC ECH ECS ED EE EF EG EGY EH EJ EK EL ELY
EM EMP EN ENC ENT ENT-SHAPED_SIGN ENY EP ER ES ESZ ET ETY EV EZ EZS I II NIKOLSBURG_OE NIKOLSBURG_UE
O OEE OO RUDIMENTA_OE RUDIMENTA_UE SHORT_ER U UNK US UU OLD_HUNGARIAN_NUMBER_: FIFTY FIVE ONE
ONE_HUNDRED ONE_THOUSAND TEN OLD_ITALIC_LETTER_: A BE CHE DE E EF EKS EL EM EN ER ERS ES ESH ESS HE
I II KA KE KHE KU NORTHERN_TSE O PE PHE SHE SOUTHERN_TSE TE THE U UU VE YE ZE OLD_ITALIC_NUMERAL_:
FIFTY FIVE ONE TEN OLD_NORTH_ARABIAN_LETTER_: AIN ALEF BEH DAD DAL ES-1 ES-2 ES-3 FEH GEEM GHAIN HAH
HEH KAF KHAH LAM MEEM NOON QAF REH SAD TAH TEH THAL THEH WAW YEH ZAH ZAIN OLD_NORTH_ARABIAN_NUMBER_:
ONE TEN TWENTY OLD_PERMIC_LETTER_: AN BUR CHERY DOI DZHOI DZITA E EF GAI HA I IA IE KOKE LEI MENOE
NENOE O OO PEEI REI SHCHOOI SHOOI SII TAI TSIU U VER VOOI YA YAT YER YERI YERU YRY YU ZATA ZHOI
OLD_PERSIAN_NUMBER_: HUNDRED ONE TEN TWENTY TWO OLD_PERSIAN_SIGN_: A AURAMAZDAA AURAMAZDAA-2
AURAMAZDAAHA BA BAGA BUUMISH CA DA DAHYAAUSH DAHYAAUSH-2 DI DU FA GA GU HA I JA JI KA KU LA MA MI MU
NA NU PA RA RU SA SHA SSA TA THA TU U VA VI XA XSHAAYATHIYA YA ZA OLD_SOGDIAN_: FRACTION_ONE_HALF
LIGATURE_AYIN-DALETH OLD_SOGDIAN_LETTER_: ALEPH ALTERNATE_AYIN AYIN BETH GIMEL HE HETH KAPH LAMEDH
MEM NUN PE RESH-AYIN-DALETH SADHE SAMEKH SHIN TAW WAW YODH ZAYIN OLD_SOGDIAN_LETTER_FINAL_: ALEPH
BETH HE NUN NUN_WITH_VERTICAL_TAIL SADHE SADHE_WITH_VERTICAL_TAIL TAW TAW_WITH_VERTICAL_TAIL
OLD_SOGDIAN_NUMBER_: FIVE FOUR ONE ONE_HUNDRED TEN THIRTY THREE TWENTY TWO OLD_SOUTH_ARABIAN_:
NUMBER_FIFTY NUMBER_ONE NUMERIC_INDICATOR OLD_SOUTH_ARABIAN_LETTER_: ALEF AYN BETH DALETH DHADHE
DHALETH FE GHAYN GIMEL HE HETH KAPH KHETH LAMEDH MEM NUN QOPH RESH SADHE SAMEKH SAT SHIN TAW TETH
THAW THETH WAW YODH ZAYN OLD_TURKIC_LETTER_ORKHON_: A AB AD AEB AED AEG AEK AEL AEN AER AES AET AEY
AG AL AN AQ AR AS ASH AT AY BASH EC ELT EM ENC ENG ENT ENY EP ESH EZ I IC IQ O OE OEK OP OQ OT
OLD_TURKIC_LETTER_YENISEI_: A AB AD AE AEB AEG AEK AEN AENG AET AEY AG AL ANG AQ AR ASH AT AY E EC
ENC ENT ENY ESH EZ I IQ OE OEK OQ OLD_UYGHUR_COMBINING_: DOT_ABOVE DOT_BELOW TWO_DOTS_ABOVE
TWO_DOTS_BELOW OLD_UYGHUR_LETTER_: ALEPH BETH FINAL_HETH GIMEL-HETH KAPH LAMEDH LESH MEM NUN PE RESH
SADHE SAMEKH SHIN TAW WAW YODH ZAYIN OLD_UYGHUR_PUNCTUATION_: BAR FOUR_DOTS TWO_BARS TWO_DOTS
OSAGE_CAPITAL_LETTER_: OSAGE_SMALL_LETTER_: A AH AI AIN BRA CHA DHA E EHCHA EHKA EHPA EHTA EHTSA EIN
GHA HA HYA I KA KHA KYA LA MA NA O OIN PA SA SHA TA TSA TSHA U WA ZA ZHA OSMANYA_LETTER_: A AA ALEF
BA CAYN DEEL DHA E EE FA GA HA I JA KAAF KHA LAAN MIIN NUUN O OO QAAF RA SA SHIIN TA U WAW XA YA
PAHAWH_HMONG_CLAN_SIGN_: FAJ HAM HAWJ KHAB KOO KWM LAUJ LIS MUAS PHAB THOJ TSAB TSHEEJ TSWB VAJ VWJ
XYOOJ YAJ YEEG PAHAWH_HMONG_CONSONANT_: AU CAU CHAU HAU HLAU HNAU LAU MAU NAU NCHAU NKAU NLAU NTHAU
NTSAU PLHAU QHAU RAU VAU XAU YAU PAHAWH_HMONG_MARK_CIM_: HOM KES KHAV SO SUAM TAUM TUB
PAHAWH_HMONG_NUMBER_: HUNDRED_MILLIONS HUNDREDS MILLIONS TEN_BILLIONS TEN_THOUSANDS TENS TRILLIONS
PAHAWH_HMONG_SIGN_: AV HLI HNUB IB_YAM LOS MEEJ_SUAB MEEJ_TSEEB MUS NQIG NTUJ TAU THIRD-STAGE_HLI
TXHEEJ_CEEV XAUS XIAB XYEEM_FAIB XYEEM_NTXIV XYEEM_RHO XYEEM_TOV XYOO ZWJ_THAJ
PAHAWH_HMONG_SIGN_CIM_: CHEEM CUAM_TSHOOJ HAIS_LUS_NTOG_NTOG NRES_TOS PUB_DAWB TSOV_ROG TXWV
TXWV_CHWV PAHAWH_HMONG_SIGN_VOS_: FEEM LUB NRUA SEEV THIAB THOM TSHAB_CEEB PAHAWH_HMONG_VOWEL_: KAAB
KAAV KAB KAIB KAIV KAUB KAUV KAV KAWB KAWV KEB KEEB KEEV KEV KIAB KIAV KIB KIV KOB KOOB KOOV KOV
KUAB KUAV KUB KUV KWB KWV PALMYRENE_: LEFT-POINTING_FLEURON RIGHT-POINTING_FLEURON
PALMYRENE_LETTER_: ALEPH AYIN BETH DALETH FINAL_NUN GIMEL HE HETH KAPH LAMEDH MEM NUN PE QOPH RESH
SADHE SAMEKH SHIN TAW TETH WAW YODH ZAYIN PALMYRENE_NUMBER_: FIVE FOUR ONE TEN THREE TWENTY TWO
PAU_CIN_HAU_GLOTTAL_: STOP STOP_FINAL STOP_VARIANT PAU_CIN_HAU_LETTER_: A BA CA CHA DA E FA GA HA I
IA KA KHA LA MA NA NGA O PA PHA RA SA TA THA U UA VA ZA PAU_CIN_HAU_LETTER_FINAL_: K L M N NG P T W
Y PAU_CIN_HAU_LOW-FALLING_: PAU_CIN_HAU_RISING_: TONE TONE_FINAL TONE_LONG TONE_LONG_FINAL
PAU_CIN_HAU_MID-LEVEL_: TONE TONE_FINAL TONE_LONG_FINAL PAU_CIN_HAU_SANDHI_: GLOTTAL_STOP
GLOTTAL_STOP_FINAL TONE TONE_FINAL TONE_LONG TONE_LONG_FINAL PHAISTOS_DISC_SIGN_: ARROW BEE BEEHIVE
BOOMERANG BOW BULLS_LEG CAPTIVE CARPENTRY_PLANE CAT CHILD CLUB COLUMN COMB COMBINING_OBLIQUE_STROKE
DOLIUM DOVE EAGLE FLUTE GAUNTLET GRATER HELMET HIDE HORN LID LILY MANACLES MATTOCK OX_BACK PAPYRUS
PEDESTRIAN PLANE_TREE PLUMED_HEAD RAM ROSETTE SAW SHIELD SHIP SLING SMALL_AXE STRAINER TATTOOED_HEAD
TIARA TUNNY VINE WAVY_BAND WOMAN PHOENICIAN_LETTER_: AIN ALF BET DELT GAML HE HET KAF LAMD MEM NUN
PE QOF ROSH SADE SEMK SHIN TAU TET WAU YOD ZAI PHOENICIAN_NUMBER_: ONE ONE_HUNDRED TEN THREE TWENTY
TWO PSALTER_PAHLAVI_: FOUR_DOTS_WITH_CROSS FOUR_DOTS_WITH_DOT SECTION_MARK TURNED_SECTION_MARK
PSALTER_PAHLAVI_LETTER_: ALEPH BETH DALETH GIMEL HE HETH KAPH LAMEDH MEM-QOPH NUN PE SADHE SAMEKH
SHIN TAW WAW-AYIN-RESH YODH ZAYIN ROMAN_: AS_SIGN CENTURIAL_SIGN DENARIUS_SIGN DIMIDIA_SEXTULA_SIGN
DUPONDIUS_SIGN QUINARIUS_SIGN SEMUNCIA_SIGN SESTERTIUS_SIGN SEXTANS_SIGN SEXTULA_SIGN SILIQUA_SIGN
UNCIA_SIGN RUMI_FRACTION_: ONE_HALF ONE_QUARTER ONE_THIRD TWO_THIRDS SHARADA_: ABBREVIATION_SIGN
CONTINUATION_SIGN DANDA DOUBLE_DANDA EKAM EXTRA_SHORT_VOWEL_MARK HEADSTROKE OM SANDHI_MARK SEPARATOR
SUTRA_MARK VOWEL_MODIFIER_MARK SHARADA_SECTION_MARK-: SOYOMBO_TERMINAL_MARK-: 1 2 SHARADA_SIGN_:
ANUSVARA AVAGRAHA CANDRABINDU INVERTED_CANDRABINDU JIHVAMULIYA NUKTA SIDDHAM UPADHMANIYA VIRAMA
VISARGA SHARADA_VOWEL_SIGN_: AA AI AU E I II O PRISHTHAMATRA_E U UU SHAVIAN_LETTER_: ADO AGE AH AIR
ARE ARRAY ASH AWE BIB CHURCH DEAD EAR EAT EGG ERR FEE GAG HA-HA HUNG IAN ICE IF JUDGE KICK LOLL
MEASURE MIME NUN OAK OIL ON OOZE OR OUT PEEP ROAR SO SURE THEY THIGH TOT UP VOW WOE WOOL YEA YEW ZOO
SIDDHAM_: DANDA DOUBLE_DANDA END_OF_TEXT_MARK SEPARATOR_BAR SEPARATOR_DOT SIDDHAM_LETTER_: A AA AI
ALTERNATE_U AU BA BHA CA CHA DA DDA DDHA DHA E GA GHA HA I II JA JHA KA KHA LA MA NA NGA NNA NYA O
PA PHA RA SA SHA SSA TA THA THREE-CIRCLE_ALTERNATE_I TTA TTHA U UU VA YA
SIDDHAM_LETTER_TWO-CIRCLE_ALTERNATE_: I II SIDDHAM_REPETITION_MARK-: 1 2 3
SIDDHAM_SECTION_MARK_DOUBLE_: RING RING_WITH_RAYS SIDDHAM_SECTION_MARK_WITH_:
CIRCLES_AND_FOUR_ENCLOSURES CIRCLES_AND_RAYS CIRCLES_AND_TWO_ENCLOSURES DOUBLE_CRESCENTS
QUADRUPLE_CRESCENTS SEPTUPLE_CRESCENTS TRIDENT_AND_DOTTED_CRESCENTS TRIDENT_AND_U-SHAPED_ORNAMENTS
TRIPLE_CRESCENTS SIDDHAM_SECTION_MARK_WITH_RAYS_AND_DOTTED_: CRESCENTS DOUBLE_CRESCENTS
TRIPLE_CRESCENTS SIDDHAM_SIGN_: ANUSVARA CANDRABINDU NUKTA SIDDHAM VIRAMA VISARGA
SIDDHAM_VOWEL_SIGN_: AA AI ALTERNATE_U ALTERNATE_UU AU E I II O U UU VOCALIC_R VOCALIC_RR
SINHALA_ARCHAIC_NUMBER_: EIGHTY FIFTY FORTY NINETY ONE_HUNDRED ONE_THOUSAND SEVENTY SIXTY TEN THIRTY
TWENTY SOGDIAN_COMBINING_: CURVE_ABOVE CURVE_BELOW DOT_ABOVE DOT_BELOW HOOK_ABOVE HOOK_BELOW
LONG_HOOK_BELOW RESH_BELOW STROKE_BELOW TWO_DOTS_ABOVE TWO_DOTS_BELOW SOGDIAN_LETTER_: ALEPH AYIN
BETH FETH GIMEL HE HETH KAPH LAMEDH LESH MEM NUN PE RESH-AYIN SADHE SAMEKH SHIN TAW WAW YODH ZAYIN
SOGDIAN_NUMBER_: ONE ONE_HUNDRED TEN TWENTY SOGDIAN_PUNCTUATION_: CIRCLE_WITH_DOT
HALF_CIRCLE_WITH_DOT TWO_CIRCLES_WITH_DOTS TWO_VERTICAL_BARS TWO_VERTICAL_BARS_WITH_DOTS
SORA_SOMPENG_LETTER_: AH BAH CAH DAH EEH EH GAH HAH IH JAH KAH LAH MAE MAH NAH NGAH NYAH OH PAH RAH
SAH TAH UH VAH YAH SOYOMBO_: FINAL_CONSONANT_SIGN_-A GEMINATION_MARK LETTER_-A SUBJOINER
VOWEL_LENGTH_MARK SOYOMBO_CLUSTER-INITIAL_LETTER_: LA RA SA SHA SOYOMBO_FINAL_CONSONANT_SIGN_: B D G
K L M N NG R S SH SOYOMBO_HEAD_MARK_WITH_MOON_AND_: SUN SUN_AND_FLAME SUN_AND_TRIPLE_FLAME
SOYOMBO_LETTER_: A BA BHA CA CHA DA DDA DDHA DHA DZA GA GHA HA JA JHA KA KHA KSSA LA MA NA NGA NNA
NYA PA PHA RA SA SHA SSA TA THA TSA TSHA TTA TTHA VA YA ZA ZHA SOYOMBO_MARK_: DOUBLE_SHAD PLUTA SHAD
TSHEG SOYOMBO_SIGN_: ANUSVARA JIHVAMULIYA UPADHMANIYA VISARGA SOYOMBO_VOWEL_SIGN_: AI AU E I O OE U
UE VOCALIC_L VOCALIC_R TAKRI_LETTER_: A AA AI ARCHAIC_KHA AU BA BHA CA CHA DA DDA DDHA DHA E GA GHA
HA I II JA JHA KA KHA LA MA NA NGA NNA NYA O PA PHA RA RRA SA SHA TA THA TTA TTHA U UU VA YA TAMIL_:
AND_ODD_SIGN CURRENT_SIGN DRY_CULTIVATION_SIGN FRACTION_DOWNSCALING_FACTOR_KIIZH IN_POSSESSION_SIGN
LAND_SIGN PUNCTUATION_END_OF_TEXT SALT_PAN_SIGN SPENT_SIGN STARTING_FROM_SIGN TOTAL_SIGN
WET_CULTIVATION_SIGN TAMIL_FRACTION_ONE_: EIGHTH EIGHTIETH FIFTH FORTIETH HALF-1 HALF-2
ONE-HUNDRED-AND-SIXTIETH QUARTER SIXTEENTH-1 SIXTEENTH-2 SIXTY-FOURTH TENTH THIRTY-SECOND
THREE-HUNDRED-AND-TWENTIETH TWENTIETH TAMIL_FRACTION_THREE_: EIGHTIETHS QUARTERS SIXTEENTHS
SIXTY-FOURTHS TWENTIETHS TAMIL_SIGN_: AAZHAAKKU CEVITU KAACU KURUNI KUZHI MUKKURUNI MUTHALIYA
MUUVUZHAKKU NEL PAARAM PANAM PATHAKKU PON UZHAKKU VAKAIYARAA VARAAKAN VELI TAMIL_TRADITIONAL_:
CREDIT_SIGN NUMBER_SIGN TANGSA_LETTER_: AC AQ AWC AWQ AWX AWZ AX AZ BA CA CHA DA DHA EC EQ EX EZ FA
FINAL_NG GA GHA HA HTA HTTA IC IQ IX IZ KA KHA LA LONG_UEX MA MC MQ MX MZ NA NGA NHA NYA OC OQ OX OZ
PA PHA RA SA SHA SHORT_AWX SHORT_UEZ TA THA TSA UC UEC UEQ UEX UEZ UIC UIQ UIUC UIUQ UIUX UIUZ UIX
UIZ UQ UX UZ VC VQ VX VZ WA XA YA ZA TIRHUTA_: ABBREVIATION_SIGN ANJI GVANG OM TIRHUTA_LETTER_: A AA
AI AU BA BHA CA CHA DA DDA DDHA DHA E GA GHA HA I II JA JHA KA KHA LA MA NA NGA NNA NYA O PA PHA RA
SA SHA SSA TA THA TTA TTHA U UU VA YA TIRHUTA_SIGN_: ANUSVARA AVAGRAHA CANDRABINDU NUKTA VIRAMA
VISARGA TIRHUTA_VOWEL_SIGN_: AA AI AU E I II O SHORT_E SHORT_O U UU UGARITIC_LETTER_: AIN ALPA BETA
DELTA DHAL GAMLA GHAIN HO HOTA I KAF KHA LAMDA MEM NUN PU QOPA RASHA SADE SAMKA SHIN SSU TET THANNA
TO U WO YOD ZETA ZU VITHKUQI_CAPITAL_LETTER_: VITHKUQI_SMALL_LETTER_: A BBE BE CE CHE DE DHE E EI FE
GA HA HHA I IJE JE KA LA LLA ME NE NJE O PE QA RE SE SHE TE THE U VE XE Y ZE
WARANG_CITI_CAPITAL_LETTER_: WARANG_CITI_SMALL_LETTER_: A AM ANG AT BU DA E ENN ENY GA HAR HIYO HOLO
HORR II KO NGAA NUNG O ODD PU SII SSUU TTE UC UU VIYO WI YA YO YU YUJ WARANG_CITI_NUMBER_: EIGHTY
FIFTY FORTY NINETY SEVENTY SIXTY TEN THIRTY TWENTY YEZIDI_COMBINING_: HAMZA_MARK MADDA_MARK
YEZIDI_LETTER_: BE CHHIM CHIM CIM DAD DAL ELIF ET EW EYN FA GAF HAY HHA JA KAF KHAF LAM
LAM_WITH_DOT_ABOVE MIM NUN OW PE PHE QAF RA RHA SAD SE SHIN SIN TA THE UM VA VA_ALTERNATE_FORM WAW
XA XHEYN YOT YOT_WITH_CIRCUMFLEX_ABOVE ZA ZAL ZE ZANABAZAR_SQUARE_: CLOSING_DOUBLE-LINED_HEAD_MARK
CLOSING_HEAD_MARK CLUSTER-INITIAL_LETTER_RA FINAL_CONSONANT_MARK INITIAL_DOUBLE-LINED_HEAD_MARK
INITIAL_HEAD_MARK LETTER_-A MARK_DOUBLE_SHAD MARK_LONG_TSHEG MARK_SHAD MARK_TSHEG SUBJOINER
VOWEL_LENGTH_MARK ZANABAZAR_SQUARE_CLUSTER-FINAL_LETTER_: LA RA VA YA ZANABAZAR_SQUARE_LETTER_: A BA
BHA CA CHA DA DDA DDHA DHA DZA DZHA GA GHA HA JA KA KHA KSSA LA MA NA NGA NNA NYA PA PHA RA SA SHA
SSA TA THA TSA TSHA TTA TTHA VA YA ZA ZHA ZANABAZAR_SQUARE_SIGN_: ANUSVARA CANDRA_WITH_ORNAMENT
CANDRABINDU CANDRABINDU_WITH_ORNAMENT VIRAMA VISARGA ZANABAZAR_SQUARE_VOWEL_SIGN_: AI AU E I O OE
REVERSED_I U UE
"

end Sabotage.Text.CharacterName

/-!
# Notations

Notations of music, mathematics, shorthand and signs, with some more scripts.
-/

namespace Sabotage.Text.CharacterName

/-- The listing of these names. -/
def notationNames : String := "
: GREEK_MUSICAL_LEIMMA MONOGRAM_FOR_EARTH TOTO_SIGN_RISING_TONE WANCHO_NGUN_SIGN ADLAM_:
ALIF_LENGTHENER CONSONANT_MODIFIER GEMINATE_CONSONANT_MODIFIER GEMINATION_MARK HAMZA
INITIAL_EXCLAMATION_MARK INITIAL_QUESTION_MARK NASALIZATION_MARK NUKTA VOWEL_LENGTHENER
ADLAM_CAPITAL_LETTER_: ADLAM_SMALL_LETTER_: ALIF BA BHE CHI DAALI DHA E FA GA GBE HA I JIIM KAF KHA
KPO LAAM MIIM NHA NUN NYA O PE QAAF RA SHA SINNYIIYHE TU U VA WAW YA YHE ZAL ADLAM_DIGIT_:
MATHEMATICAL_BOLD_DIGIT_: MATHEMATICAL_DOUBLE-STRUCK_DIGIT_: MATHEMATICAL_MONOSPACE_DIGIT_:
MATHEMATICAL_SANS-SERIF_BOLD_DIGIT_: MATHEMATICAL_SANS-SERIF_DIGIT_: NYIAKENG_PUACHUE_HMONG_DIGIT_:
WANCHO_DIGIT_: EIGHT FIVE FOUR NINE ONE SEVEN SIX THREE TWO ZERO ARABIC_MATHEMATICAL_: AIN ALEF BEH
DAD DAL FEH GHAIN HAH JEEM KAF KHAH LAM MEEM NOON OPERATOR_HAH_WITH_DAL
OPERATOR_MEEM_WITH_HAH_WITH_TATWEEL QAF REH SAD SEEN SHEEN TAH TEH THAL THEH WAW YEH ZAH ZAIN
ARABIC_MATHEMATICAL_DOTLESS_: BEH FEH NOON QAF ARABIC_MATHEMATICAL_DOUBLE-STRUCK_: AIN BEH DAD DAL
FEH GHAIN HAH JEEM KHAH LAM MEEM NOON QAF REH SAD SEEN SHEEN TAH TEH THAL THEH WAW YEH ZAH ZAIN
ARABIC_MATHEMATICAL_INITIAL_: AIN BEH DAD FEH GHAIN HAH HEH JEEM KAF KHAH LAM MEEM NOON QAF SAD SEEN
SHEEN TEH THEH YEH ARABIC_MATHEMATICAL_LOOPED_: AIN ALEF BEH DAD DAL FEH GHAIN HAH HEH JEEM KHAH LAM
MEEM NOON QAF REH SAD SEEN SHEEN TAH TEH THAL THEH WAW YEH ZAH ZAIN ARABIC_MATHEMATICAL_STRETCHED_:
AIN BEH DAD DOTLESS_BEH DOTLESS_FEH FEH GHAIN HAH HEH JEEM KAF KHAH MEEM NOON QAF SAD SEEN SHEEN TAH
TEH THEH YEH ZAH ARABIC_MATHEMATICAL_TAILED_: AIN DAD DOTLESS_NOON DOTLESS_QAF GHAIN HAH JEEM KHAH
LAM NOON QAF SAD SEEN SHEEN YEH BYZANTINE_MUSICAL_SYMBOL_: ANATRICHISMA ANTIKENOKYLISMA ANTIKENOMA
APESO_EKFONITIKON APESO_EXO_NEO APLI APODERMA_ARCHAION APODERMA_NEO APOSTROFOI_SYNDESMOS_NEO
APOSTROFOI_TELOUS_ICHIMATOS APOSTROFOS APOSTROFOS_DIPLI APOSTROFOS_NEO APOTHEMA ARGON ARGOSYNTHETON
CHAMILI CHAMILON CHOREVMA_ARCHAION CHOREVMA_NEO CHROA_KLITON CHROA_SPATHI CHROA_ZYGOS DASEIA DIARGON
DIASTOLI_APLI_MEGALI DIASTOLI_APLI_MIKRI DIASTOLI_DIPLI DIASTOLI_THESEOS DIFTOGGOS_OU DIGORGON
DIGRAMMA_GG DIPLI DIPLI_ARCHAION DYO EKSTREPTON ELAFRON ENARXIS_KAI_FTHORA_VOU ENDOFONON EPEGERMA
ETERON_ARGOSYNTHETON ETERON_PARAKALESMA EXO_EKFONITIKON FANEROSIS_DIFONIAS FANEROSIS_MONOFONIAS
FANEROSIS_TETRAFONIAS FHTORA_SKLIRON_CHROMA_VASIS GENIKI_DIESIS GENIKI_YFESIS GORGOSYNTHETON
GORTHMIKON_N_APLOUN GORTHMIKON_N_DIPLOUN GRONTHISMATA ICHADIN IMIDIARGON IMIFONON IMIFTHORA
IMIFTHORON ISAKIA_TELOUS_ICHIMATOS ISON_ARCHAION ISON_NEO KATAVA_TROMIKON KATAVASMA KATHISTI
KENTIMA_ARCHAION KENTIMA_NEO_ANO KENTIMA_NEO_KATO KENTIMA_NEO_MESO KENTIMATA KLASMA KLASMA_ANO
KLASMA_KATO KONTEVMA KONTEVMA_ALLO KORONIS KOUFISMA KRATIMA_ALLO KRATIMA_ARCHAION KRATIMA_NEO
KRATIMATA KRATIMOKOUFISMA KRATIMOYPORROON KREMASTI KYLISMA LEMOI LYGISMA MIKRON_ISON NANA
OLIGON_ARCHAION OLIGON_NEO OMALON OXEIA_DIPLI OXEIA_EKFONITIKON OXEIA_NEO OXEIAI_ARCHAION
OYRANISMA_ARCHAION OYRANISMA_NEO PARAKALESMA_ARCHAION PARAKALESMA_NEO PARAKLITIKI
PARAKLITIKI_ARCHAION PARAKLITIKI_NEO PARICHON PELASTON PELASTON_NEO PERISPOMENI PETASMA PETASTI
PETASTOKOUFISMA PIASMA_ARCHAION PIASMA_NEO PSIFISTOLYGISMA PSIFISTON PSIFISTON_NEO
PSIFISTOPARAKALESMA PSIFISTOSYNAGMA PSILI PSILON RAPISMA REVMA SAXIMATA SEISMA SEISMA_NEO STAVROS
STAVROS_APODEXIA STIGMA STRAGGISMATA SYNAGMA_ARCHAION SYNAGMA_META_STAVROU SYNAGMA_NEO SYNEVMA SYRMA
SYRMATIKI TELEIA TESSERA TETRAPLI THEMA THEMA_APLOUN THEMATISMOS_ESO THEMATISMOS_EXO
THES_KAI_APOTHES THITA TINAGMA TRIA TRIGORGON TRIPLI TROMIKOLYGISMA TROMIKON_ALLO TROMIKON_ARCHAION
TROMIKON_NEO TROMIKOPARAKALESMA TROMIKOPSIFISTON TROMIKOSYNAGMA VAREIA_DIPLI VAREIA_EKFONITIKON
VAREIA_NEO VAREIAI_ARCHAION VATHY XIRON_KLASMA YFEN_ANO YFEN_KATO YPOKRISIS YPOKRISIS_DIPLI YPORROI
YPSILI BYZANTINE_MUSICAL_SYMBOL_AGOGI_: ARGI ARGOTERI GORGI GORGOTERI MESI METRIA POLI_ARGI
POLI_GORGI BYZANTINE_MUSICAL_SYMBOL_ARKTIKO_: DI GA KE NI PA VOU ZO
BYZANTINE_MUSICAL_SYMBOL_DIESIS_: APLI_DYO_DODEKATA DIGRAMMOS_EX_DODEKATA
MONOGRAMMOS_TESSERA_DODEKATA TETARTIMORION TRIGRAMMOS_OKTO_DODEKATA TRITIMORION
BYZANTINE_MUSICAL_SYMBOL_DIGORGON_PARESTIGMENON_: ARISTERA_ANO ARISTERA_KATO DEXIA
BYZANTINE_MUSICAL_SYMBOL_FTHORA_: ARCHAION ARCHAION_DEYTEROU_ICHOU ENARMONIOS_ANTIFONIA
I_YFESIS_TETARTIMORION MALAKON_CHROMA_DIFONIAS MALAKON_CHROMA_MONOFONIAS NAOS_ICHOS NENANO
SKLIRON_CHROMA_SYNAFI SKLIRON_DIATONON_DI BYZANTINE_MUSICAL_SYMBOL_FTHORA_DIATONIKI_: DI KE NANA
NI_ANO NI_KATO PA ZO BYZANTINE_MUSICAL_SYMBOL_GORGON_: ARCHAION NEO_ANO NEO_KATO
PARESTIGMENON_ARISTERA PARESTIGMENON_DEXIA BYZANTINE_MUSICAL_SYMBOL_KENTIMATA_: ARCHAION NEO_ANO
NEO_KATO NEO_MESO BYZANTINE_MUSICAL_SYMBOL_LEIMMA_: DYO_CHRONON ENOS_CHRONOU IMISEOS_CHRONOU
TESSARON_CHRONON TRION_CHRONON BYZANTINE_MUSICAL_SYMBOL_MARTYRIA_: ALLI_DEYTEROS_ICHOS
ALLI_PROTOS_ICHOS DEYTEROS_ICHOS LEGETOS_ICHOS PLAGIOS_ICHOS PLAGIOS_TETARTOS_ICHOS PROTOS_ICHOS
PROTOVARYS_ICHOS TETARTOS_ICHOS TETARTOS_LEGETOS_ICHOS TRIFONIAS TRITOS_ICHOS VARYS_ICHOS
BYZANTINE_MUSICAL_SYMBOL_SIMANSIS_: ARSEOS ARSEOS_DISIMOU ARSEOS_TETRASIMOU ARSEOS_TRISIMOU THESEOS
THESEOS_DISIMOU THESEOS_TETRASIMOU THESEOS_TRISIMOU BYZANTINE_MUSICAL_SYMBOL_YFESIS_:
APLI_DYO_DODEKATA DIGRAMMOS_EX_DODEKATA MONOGRAMMOS_TESSERA_DODEKATA TRIGRAMMOS_OKTO_DODEKATA
TRITIMORION COMBINING_GLAGOLITIC_LETTER_: AZU BIG_YUS BUKY CHRIVI DJERVI DOBRO FITA FRITU GLAGOLI
HERU I INITIAL_IZHE IOTATED_BIG_YUS IOTATED_SMALL_YUS IZHE KAKO LJUDIJE MYSLITE NASHI ONU POKOJI
RITSI SHA SHTA SLOVO SMALL_YUS TSI TVRIDO UKU VEDE YATI YERI YERU YESTU YO YU ZEMLJA ZHIVETE
COMBINING_GREEK_MUSICAL_: PENTASEME TETRASEME TRISEME COUNTING_ROD_TENS_DIGIT_:
COUNTING_ROD_UNIT_DIGIT_: INDIC_SIYAQ_NUMBER_PREFIXED_: MENDE_KIKAKUI_DIGIT_: EIGHT FIVE FOUR NINE
ONE SEVEN SIX THREE TWO DIGRAM_FOR_: EARTH EARTHLY_HEAVEN EARTHLY_HUMAN HEAVENLY_EARTH HUMAN_EARTH
DUPLOYAN_: DOUBLE_MARK PUNCTUATION_CHINOOK_FULL_STOP SIGN_O_WITH_CROSS THICK_LETTER_SELECTOR
DUPLOYAN_AFFIX_: LEFT_HORIZONTAL_SECANT MID_HORIZONTAL_SECANT MID_VERTICAL_SECANT
RIGHT_HORIZONTAL_SECANT DUPLOYAN_AFFIX_ATTACHED_: E_HOOK I_HOOK LEFT-TO-RIGHT_SECANT SECANT TAIL
TANGENT TANGENT_HOOK DUPLOYAN_AFFIX_HIGH_: ACUTE CIRCLE DOT GRAVE LINE LONG_GRAVE TIGHT_ACUTE
VERTICAL VERTICAL_SECANT WAVE DUPLOYAN_AFFIX_LOW_: ACUTE ARROW CIRCLE DOT GRAVE LINE LONG_GRAVE
TIGHT_ACUTE VERTICAL VERTICAL_SECANT WAVE DUPLOYAN_LETTER_: A AOU B D D_S DH E EE EU F F_N G G_R_S H
HL I IE J J_M J_M_S J_N J_N_S J_S J_S_WITH_DOT J_WITH_DOT J_WITH_DOTS_INSIDE_AND_ABOVE K K_M K_R_S
KK L LH LONG_I LONG_U M M_N M_N_S M_S M_WITH_DOT N N_M N_M_S N_S N_WITH_DOT NASAL_A NASAL_I NASAL_O
NASAL_U O OA OOH OU OW P P_N PERNIN_AM PERNIN_AN R R_S RH ROMANIAN_I ROMANIAN_U S SHORT_I T T_R_S
T_S TH U U_N UH UI V VOCALIC_M W W_R WA WEI WH WI WO WOW X XW YE DUPLOYAN_LETTER_S_: J J_S K K_R M N
P P_R S T T_R WITH_DOT WITH_DOT_BELOW DUPLOYAN_LETTER_SLOAN_: AN DH EE EH EN J ON OW U
ETHIOPIC_SYLLABLE_: HHWE HHWEE HHWI HHYA HHYAA HHYE HHYEE HHYI HHYO HHYU ETHIOPIC_SYLLABLE_GURAGE_:
BWEE BWI FWEE FWI GWE GWEE GWI HHWA KWE KWEE KWI MWEE MWI PWEE PWI QWE QWEE QWI
GREEK_INSTRUMENTAL_NOTATION_SYMBOL-: 1 11 12 13 14 17 18 19 2 23 24 25 26 27 29 30 32 36 37 38 39 4
40 42 43 45 47 48 49 5 50 51 52 53 54 7 8 GREEK_VOCAL_NOTATION_SYMBOL-: 1 10 11 12 13 14 15 16 17 18
19 2 20 21 22 23 24 3 4 5 50 51 52 53 54 6 7 8 9 IDEOGRAPHIC_TALLY_MARK_: FIVE FOUR ONE THREE TWO
INDIC_SIYAQ_: ALTERNATE_LAKH_MARK LAKH_MARK PLACEHOLDER RUPEE_MARK INDIC_SIYAQ_FRACTION_: ONE_HALF
ONE_QUARTER THREE_QUARTERS INDIC_SIYAQ_NUMBER_: ALTERNATE_ONE ALTERNATE_TEN_THOUSAND ALTERNATE_TWO
EIGHT EIGHT_HUNDRED EIGHT_THOUSAND EIGHTY EIGHTY_THOUSAND FIFTY FIFTY_THOUSAND FIVE FIVE_HUNDRED
FIVE_THOUSAND FORTY FORTY_THOUSAND FOUR FOUR_HUNDRED FOUR_THOUSAND KAROR KARORAN LAKH LAKHAN NINE
NINE_HUNDRED NINE_THOUSAND NINETY NINETY_THOUSAND ONE ONE_HUNDRED ONE_THOUSAND SEVEN SEVEN_HUNDRED
SEVEN_THOUSAND SEVENTY SEVENTY_THOUSAND SIX SIX_HUNDRED SIX_THOUSAND SIXTY SIXTY_THOUSAND TEN
TEN_THOUSAND THIRTY THIRTY_THOUSAND THREE THREE_HUNDRED THREE_THOUSAND TWENTY TWENTY_THOUSAND TWO
TWO_HUNDRED TWO_THOUSAND LATIN_LETTER_: INVERTED_GLOTTAL_STOP_WITH_CURL
RETROFLEX_CLICK_WITH_RETROFLEX_HOOK STRETCHED_C_WITH_CURL LATIN_LETTER_SMALL_CAPITAL_: L_WITH_BELT
TURNED_G TURNED_K LATIN_SMALL_LETTER_: C_WITH_RETROFLEX_HOOK DEZH_DIGRAPH_WITH_PALATAL_HOOK
DEZH_DIGRAPH_WITH_RETROFLEX_HOOK ENG_WITH_PALATAL_HOOK ESH_WITH_DOUBLE_BAR
ESH_WITH_DOUBLE_BAR_AND_CURL EZH_WITH_PALATAL_HOOK FENG_DIGRAPH_WITH_TRILL
I_WITH_STROKE_AND_RETROFLEX_HOOK L_WITH_BELT_AND_PALATAL_HOOK L_WITH_FISHHOOK
LEZH_WITH_RETROFLEX_HOOK O_WITH_RETROFLEX_HOOK R_WITH_FISHHOOK_AND_PALATAL_HOOK REVERSED_ENG
REVERSED_K REVERSED_SCRIPT_G S_WITH_CURL T_WITH_HOOK_AND_RETROFLEX_HOOK
TESH_DIGRAPH_WITH_PALATAL_HOOK TESH_DIGRAPH_WITH_RETROFLEX_HOOK
TURNED_R_WITH_LONG_LEG_AND_RETROFLEX_HOOK TURNED_R_WITH_PALATAL_HOOK TURNED_T_WITH_CURL
TURNED_Y_WITH_BELT MATHEMATICAL_BOLD_: MATHEMATICAL_BOLD_ITALIC_: MATHEMATICAL_ITALIC_:
MATHEMATICAL_SANS-SERIF_BOLD_: MATHEMATICAL_SANS-SERIF_BOLD_ITALIC_: EPSILON_SYMBOL KAPPA_SYMBOL
NABLA PARTIAL_DIFFERENTIAL PHI_SYMBOL PI_SYMBOL RHO_SYMBOL THETA_SYMBOL MATHEMATICAL_BOLD_CAPITAL_:
A ALPHA B BETA C CHI D DELTA DIGAMMA E EPSILON ETA F G GAMMA H I IOTA J K KAPPA L LAMDA M MU N NU O
OMEGA OMICRON P PHI PI PSI Q R RHO S SIGMA T TAU THETA THETA_SYMBOL U UPSILON V W X XI Y Z ZETA
MATHEMATICAL_BOLD_FRAKTUR_CAPITAL_: MATHEMATICAL_BOLD_FRAKTUR_SMALL_:
MATHEMATICAL_BOLD_SCRIPT_CAPITAL_: MATHEMATICAL_BOLD_SCRIPT_SMALL_:
MATHEMATICAL_DOUBLE-STRUCK_SMALL_: MATHEMATICAL_FRAKTUR_SMALL_: MATHEMATICAL_MONOSPACE_CAPITAL_:
MATHEMATICAL_MONOSPACE_SMALL_: MATHEMATICAL_SANS-SERIF_CAPITAL_:
MATHEMATICAL_SANS-SERIF_ITALIC_CAPITAL_: MATHEMATICAL_SANS-SERIF_ITALIC_SMALL_:
MATHEMATICAL_SANS-SERIF_SMALL_: A B C D E F G H I J K L M N O P Q R S T U V W X Y Z
MATHEMATICAL_BOLD_ITALIC_CAPITAL_: MATHEMATICAL_ITALIC_CAPITAL_:
MATHEMATICAL_SANS-SERIF_BOLD_CAPITAL_: MATHEMATICAL_SANS-SERIF_BOLD_ITALIC_CAPITAL_: A ALPHA B BETA
C CHI D DELTA E EPSILON ETA F G GAMMA H I IOTA J K KAPPA L LAMDA M MU N NU O OMEGA OMICRON P PHI PI
PSI Q R RHO S SIGMA T TAU THETA THETA_SYMBOL U UPSILON V W X XI Y Z ZETA
MATHEMATICAL_BOLD_ITALIC_SMALL_: MATHEMATICAL_SANS-SERIF_BOLD_ITALIC_SMALL_:
MATHEMATICAL_SANS-SERIF_BOLD_SMALL_: A ALPHA B BETA C CHI D DELTA E EPSILON ETA F FINAL_SIGMA G
GAMMA H I IOTA J K KAPPA L LAMDA M MU N NU O OMEGA OMICRON P PHI PI PSI Q R RHO S SIGMA T TAU THETA
U UPSILON V W X XI Y Z ZETA MATHEMATICAL_BOLD_SMALL_: A ALPHA B BETA C CHI D DELTA DIGAMMA E EPSILON
ETA F FINAL_SIGMA G GAMMA H I IOTA J K KAPPA L LAMDA M MU N NU O OMEGA OMICRON P PHI PI PSI Q R RHO
S SIGMA T TAU THETA U UPSILON V W X XI Y Z ZETA MATHEMATICAL_DOUBLE-STRUCK_CAPITAL_: A B D E F G I J
K L M O S T U V W X Y MATHEMATICAL_FRAKTUR_CAPITAL_: A B D E F G J K L M N O P Q S T U V W X Y
MATHEMATICAL_ITALIC_SMALL_: A ALPHA B BETA C CHI D DELTA DOTLESS_I DOTLESS_J E EPSILON ETA F
FINAL_SIGMA G GAMMA I IOTA J K KAPPA L LAMDA M MU N NU O OMEGA OMICRON P PHI PI PSI Q R RHO S SIGMA
T TAU THETA U UPSILON V W X XI Y Z ZETA MATHEMATICAL_SCRIPT_CAPITAL_: A C D G J K N O P Q S T U V W
X Y Z MATHEMATICAL_SCRIPT_SMALL_: A B C D F H I J K L M N P Q R S T U V W X Y Z MAYAN_NUMERAL_:
EIGHT EIGHTEEN ELEVEN FIFTEEN FIVE FOUR FOURTEEN NINE NINETEEN ONE SEVEN SEVENTEEN SIX SIXTEEN TEN
THIRTEEN THREE TWELVE TWO ZERO MENDE_KIKAKUI_COMBINING_NUMBER_: HUNDRED_THOUSANDS HUNDREDS MILLIONS
TEENS TEN_THOUSANDS TENS THOUSANDS MENDE_KIKAKUI_SYLLABLE_: M001_KI M002_KA M003_KU M004_WI M005_WA
M006_WU M007_MIN M008_MAN M009_MUN M010_BI M011_BA M012_BU M013_I M014_A M015_U M016_DI M017_DA
M018_DU M019_SI M020_SA M021_SU M022_TI M023_TA M024_TU M025_LI M026_LA M027_LU M028_JI M029_JA
M030_JU M031_YI M032_YA M033_YU M034_FI M035_FA M036_FU M037_NIN M038_NAN M039_NUN M040_HEE M041_HA
M042_HOO M043_NGGA M044_KPEE M045_WO M046_HUAN M047_MBEE M048_KO M049_WVA M050_PU M051_PE M052_HEN
M053_HIN M054_LOO M055_TE M056_GBA M057_NGON M058_NYAN M059_MEN M060_NYON M061_WVI M062_MBA M063_JO
M064_NDO M065_KEE M066_PO M067_NDOO M068_PI M069_TO M070_GBO M071_GBOO M072_MBE M073_LE M074_KPU
M075_FE M076_KOO M077_VO M078_FEE M079_SO M080_YE M081_PEE M082_NGGU M083_HEEI M084_LEE M085_VE
M086_LONG_NGGE M087_HUN M088_FO M089_DEE M090_NGGI M091_TEE M092_KPA M093_GBEE M094_MON M095_KE
M096_HE M097_BE M098_NYEN M099_PA M100_E M101_FAN M102_POO M103_BOO M104_TOO M105_LONG_MBOO
M106_LONG_NGGOO M107_GBE M108_KPE M109_YEE M110_LONG_LE M111_GA M112_KPOO M113_JE M114_WOO
M115_NGGEE M116_SE M117_NEN M118_WE M119_NDE M120_NGGO M121_YO M122_MBU M123_NDI M124_GBI M125_NDU
M126_WEE M127_NGGUA M128_HOOU M129_NDA M130_HAN M131_IN M132_KPI M133_FOO M134_NJOO M135_IN M136_SOO
M137_EI M138_BO M139_WVE M140_HO M141_YOO M142_LONG_MBO M143_WEI M144_VOO M145_MBI M146_NGGE M147_O
M148_GBU M149_NJEE M150_BEE M151_VU M152_NJA M153_LO M154_MUAN M155_GI M156_NGGOO M157_JEE M158_KPO
M159_NGGAA M160_JOO M161_LONG_MBE M162_SEE M163_EE M164_NYIN M165_OO M166_GUEI M167_GUAN M168_GU
M169_NON M170_NYUN M171_RA M172_MBOO M173_VEE M174_MBO M175_LONG_JO M176_HI M177_NGUAN M178_EN
M179_KUA M180_DOO M181_DO M182_VI M183_LONG_NGGO M184_NGEN M185_VA M186_HU M187_MBUU M188_MBEE
M189_MUEN M190_GEE M191_NDEE M192_NJU M193_HON M194_WUI M195_AN M196_SIA M197_FUA MUSICAL_SYMBOL_:
ARPEGGIATO_DOWN ARPEGGIATO_UP BRACE BRACKET BREATH_MARK BREVE BREVIS BREVIS_REST C_CLEF CAESURA
CIRCLE_X_NOTEHEAD CLIMACUS CLIVIS CLUSTER_NOTEHEAD_BLACK CLUSTER_NOTEHEAD_WHITE CODA COMMON_TIME
CRESCENDO CROIX CUT_TIME DA_CAPO DAL_SEGNO DAMP DAMP_ALL DASHED_BARLINE DECRESCENDO DEGREE_SLASH
DOUBLE_BARLINE DOUBLE_FLAT DOUBLE_SHARP DRUM_CLEF-1 DRUM_CLEF-2 EIGHTH_NOTE EIGHTH_REST END_BEAM
END_OF_STIMME END_PHRASE END_SLUR END_TIE F_CLEF F_CLEF_OTTAVA_ALTA F_CLEF_OTTAVA_BASSA FERMATA
FERMATA_BELOW FINAL_BARLINE FIVE-LINE_STAFF FLAT_DOWN FLAT_UP FORTE FOUR-LINE_STAFF
FOUR-STRING_FRETBOARD FUSA_BLACK FUSA_WHITE G_CLEF G_CLEF_OTTAVA_ALTA G_CLEF_OTTAVA_BASSA
GLISSANDO_DOWN GLISSANDO_UP GRACE_NOTE_NO_SLASH GRACE_NOTE_SLASH GREGORIAN_C_CLEF GREGORIAN_F_CLEF
HALF_NOTE HALF_PEDAL_MARK HALF_REST HAUPTSTIMME INVERTED_TURN KORON LEFT_REPEAT_SIGN LONGA
LONGA_IMPERFECTA_REST LONGA_PERFECTA_REST MAXIMA MEZZO MINIMA MINIMA_BLACK MINIMA_REST
MOON_NOTEHEAD_BLACK MOON_NOTEHEAD_WHITE MULTI_REST MULTIPLE_MEASURE_REST NATURAL_DOWN NATURAL_UP
NEBENSTIMME NOTEHEAD_BLACK NULL_NOTEHEAD ONE-LINE_STAFF OTTAVA_ALTA OTTAVA_BASSA
PARENTHESIS_NOTEHEAD PEDAL_MARK PEDAL_UP_MARK PES_SUBPUNCTIS PIANO PLUS_NOTEHEAD PODATUS PORRECTUS
PORRECTUS_FLEXUS QUINDICESIMA_ALTA QUINDICESIMA_BASSA REPEAT_DOTS REVERSE_FINAL_BARLINE
RIGHT_REPEAT_SIGN RINFORZANDO SCANDICUS SCANDICUS_FLEXUS SEGNO SHARP_DOWN SHARP_UP SHORT_BARLINE
SINGLE_BARLINE SIX-LINE_STAFF SIX-STRING_FRETBOARD SIXTEENTH_NOTE SIXTEENTH_REST SIXTY-FOURTH_NOTE
SIXTY-FOURTH_REST SORI SQUARE_B SQUARE_NOTEHEAD_BLACK SQUARE_NOTEHEAD_WHITE SUBITO
THIRTY-SECOND_NOTE THIRTY-SECOND_REST THREE-LINE_STAFF TORCULUS TORCULUS_RESUPINUS TR TURN
TURN_SLASH TURN_UP TWO-LINE_STAFF VIRGA VOID_NOTEHEAD WHOLE_NOTE WHOLE_REST WITH_FINGERNAILS
X_NOTEHEAD Z MUSICAL_SYMBOL_BEGIN_: BEAM PHRASE SLUR TIE MUSICAL_SYMBOL_COMBINING_: ACCENT
ACCENT-STACCATO AUGMENTATION_DOT BEND DOIT DOUBLE_TONGUE DOWN_BOW FLAG-1 FLAG-2 FLAG-3 FLAG-4 FLAG-5
FLIP HARMONIC LOURE MARCATO MARCATO-STACCATO RIP SMEAR SNAP_PIZZICATO SPRECHGESANG_STEM
STACCATISSIMO STACCATO STEM TENUTO TREMOLO-1 TREMOLO-2 TREMOLO-3 TRIPLE_TONGUE UP_BOW
MUSICAL_SYMBOL_FINGERED_TREMOLO-: MUSICAL_SYMBOL_REPEATED_FIGURE-: 1 2 3 MUSICAL_SYMBOL_KIEVAN_:
C_CLEF EIGHTH_NOTE_STEM_DOWN EIGHTH_NOTE_STEM_UP END_OF_PIECE FINAL_NOTE FLAT_SIGN HALF_NOTE
QUARTER_NOTE_STEM_DOWN QUARTER_NOTE_STEM_UP RECITATIVE_MARK WHOLE_NOTE
MUSICAL_SYMBOL_ONE_HUNDRED_TWENTY-EIGHTH_: NOTE REST MUSICAL_SYMBOL_ORNAMENT_STROKE-: 1 10 11 2 3 4
5 6 7 8 9 MUSICAL_SYMBOL_QUARTER_: NOTE REST TONE_FLAT TONE_SHARP MUSICAL_SYMBOL_SEMIBREVIS_:
MUSICAL_SYMBOL_SEMIMINIMA_: BLACK REST WHITE MUSICAL_SYMBOL_TEMPUS_IMPERFECTUM_CUM_PROLATIONE_:
IMPERFECTA IMPERFECTA_DIMINUTION-1 IMPERFECTA_DIMINUTION-2 IMPERFECTA_DIMINUTION-3 PERFECTA
MUSICAL_SYMBOL_TEMPUS_PERFECTUM_CUM_PROLATIONE_: IMPERFECTA PERFECTA PERFECTA_DIMINUTION-1
MUSICAL_SYMBOL_TRIANGLE_NOTEHEAD_: DOWN_BLACK DOWN_WHITE LEFT_BLACK LEFT_WHITE RIGHT_BLACK
RIGHT_WHITE UP_BLACK UP_RIGHT_BLACK UP_RIGHT_WHITE UP_WHITE
MUSICAL_SYMBOL_TRIANGLE-ROUND_NOTEHEAD_DOWN_: BLACK WHITE NYIAKENG_PUACHUE_HMONG_: CIRCLED_CA
LOGOGRAM_NYAJ SIGN_XW_XW SYLLABLE_LENGTHENER NYIAKENG_PUACHUE_HMONG_LETTER_: A AA CA DA DLA E EE FA
GA HA HAH I KA LA MA MLA NA NCA NKA NPA NPLA NQA NRA NTA NTSA NTXA NYA O OO PA PLA QA RA RRA SA TA
TSA TXA U VA W XA XYA YA ZA NYIAKENG_PUACHUE_HMONG_SIGN_FOR_: ANIMAL INVERTEBRATE LOCATION PERSON
THING NYIAKENG_PUACHUE_HMONG_TONE-: B D G J M S V OTTOMAN_SIYAQ_: FRACTION_ONE_HALF
FRACTION_ONE_SIXTH MARRATAN OTTOMAN_SIYAQ_ALTERNATE_NUMBER_: EIGHT FIVE FOUR FOUR_HUNDRED NINE SEVEN
SIX SIX_HUNDRED TEN TEN_THOUSAND THREE TWO TWO_THOUSAND OTTOMAN_SIYAQ_NUMBER_: EIGHT EIGHT_HUNDRED
EIGHT_THOUSAND EIGHTY EIGHTY_THOUSAND FIFTY FIFTY_THOUSAND FIVE FIVE_HUNDRED FIVE_THOUSAND FORTY
FORTY_THOUSAND FOUR FOUR_HUNDRED FOUR_THOUSAND NINE NINE_HUNDRED NINE_THOUSAND NINETY
NINETY_THOUSAND ONE ONE_HUNDRED ONE_THOUSAND SEVEN SEVEN_HUNDRED SEVEN_THOUSAND SEVENTY
SEVENTY_THOUSAND SIX SIX_HUNDRED SIX_THOUSAND SIXTY SIXTY_THOUSAND TEN TEN_THOUSAND THIRTY
THIRTY_THOUSAND THREE THREE_HUNDRED THREE_THOUSAND TWENTY TWENTY_THOUSAND TWO TWO_HUNDRED
TWO_THOUSAND SHORTHAND_FORMAT_: CONTINUING_OVERLAP DOWN_STEP LETTER_OVERLAP UP_STEP SIGNWRITING_:
AIR_BLOW_SMALL_ROTATIONS AIR_BLOWING_OUT AIR_SUCK_SMALL_ROTATIONS AIR_SUCKING_IN BREATH_EXHALE
BREATH_INHALE BRUSH_BETWEEN BRUSH_MULTIPLE BRUSH_SINGLE CHEEKS_NEUTRAL CHEEKS_PUFFED CHEEKS_SUCKED
COLON COMMA EARS EXCITEMENT EYE_BLINK_MULTIPLE EYE_BLINK_SINGLE EYE_WINK FINGER
FLOORPLANE_SHOULDER_HIP_MOVE FULL_STOP GRASP_BETWEEN GRASP_MULTIPLE GRASP_SINGLE HAIR HEAD
HEAD_MOVEMENT_CIRCLE HEAD_RIM LIMB_COMBINATION LIP_LOWER_OVER_UPPER LIP_UPPER_OVER_LOWER
LIPS_PRESSED_TOGETHER LOCATION-FLOORPLANE_SPACE LOCATION-WALLPLANE_SPACE NECK PARENTHESIS
RUB_BETWEEN RUB_MULTIPLE RUB_SINGLE SEMICOLON STRIKE_BETWEEN STRIKE_MULTIPLE STRIKE_SINGLE
SURFACE_BETWEEN SURFACE_SYMBOLS TEETH TORSO-FLOORPLANE_TWISTING TOUCH_BETWEEN TOUCH_MULTIPLE
TOUCH_SINGLE TRAVEL-FLOORPLANE_SHAKING TRAVEL-WALLPLANE_SHAKING UPPER_BODY_TILTING_FROM_HIP_JOINTS
WALLPLANE_SHOULDER_HIP_MOVE SIGNWRITING_DREAMY_EYEBROWS_: DOWN_NEUTRAL NEUTRAL_DOWN NEUTRAL_UP
UP_NEUTRAL SIGNWRITING_DYNAMIC_: ARROWHEAD_LARGE ARROWHEAD_SMALL EVERY_OTHER_TIME FAST GRADUAL
RELAXED SIMULTANEOUS SIMULTANEOUS_ALTERNATING SLOW TENSE SIGNWRITING_EYEBROWS_STRAIGHT_: DOWN
NEUTRAL UP SIGNWRITING_EYEGAZE-FLOORPLANE_: CURVED STRAIGHT STRAIGHT_ALTERNATING STRAIGHT_DOUBLE
SIGNWRITING_EYEGAZE-WALLPLANE_: CIRCLING CURVED STRAIGHT STRAIGHT_ALTERNATING STRAIGHT_DOUBLE
SIGNWRITING_EYELASHES_: DOWN FLUTTERING UP SIGNWRITING_EYES_: CLOSED HALF_CLOSED HALF_OPEN OPEN
SQUEEZED WIDE_OPEN WIDENING_MOVEMENT SIGNWRITING_FACE_DIRECTION_POSITION_NOSE_: FORWARD_TILTING
UP_OR_DOWN UP_OR_DOWN_TILTING SIGNWRITING_FILL_MODIFIER-: 2 3 4 5 6 SIGNWRITING_FLICK_:
LARGE_MULTIPLE LARGE_SINGLE SEQUENTIAL SMALL_MULTIPLE SMALL_SINGLE SIGNWRITING_FOREHEAD_: CONTACT
NEUTRAL WRINKLED SIGNWRITING_HAND-: ANGLE ANGLE_INDEX ANGLE_RING_DOWN_MIDDLE_THUMB_INDEX_CROSS
ANGLE_RING_LITTLE CIRCLE CLAW CUP CURLICUE CURLICUE_INDEX_RING_LITTLE_ON
CURLICUE_MIDDLE_RING_LITTLE_ON CURLICUE_OPEN FIST FIST_FOUR_FINGERS_CONJOINED_BENT FIST_HEEL
FIST_INDEX FIST_THUMB FLAT HINGE HOOK HOOK_CURLICUE HOOK_MIDDLE_THUMB HOOK_RING_THUMB OVAL
SIGNWRITING_HAND-ANGLE_INDEX_: MIDDLE_LITTLE MIDDLE_RING RING_LITTLE RING_LITTLE_OUT THUMB THUMB_IN
THUMB_OUT SIGNWRITING_HAND-ANGLE_LITTLE_: INDEX INDEX_THUMB_INDEX_THUMB INDEX_THUMB_INDEX_THUMB_OUT
UP SIGNWRITING_HAND-ANGLE_MIDDLE_RING_: LITTLE LITTLE_IN LITTLE_OUT SIGNWRITING_HAND-CIRCLE_: INDEX
INDEX_BENT INDEX_HINGE INDEX_MIDDLE INDEX_RING_LITTLE LITTLE_INDEX LITTLE_UP MIDDLE_RING_LITTLE
MIDDLE_RING_LITTLE_BENT MIDDLE_UP RING_LITTLE SIGNWRITING_HAND-CIRCLE_INDEX_MIDDLE_: CROSS_LITTLE
CROSSED LITTLE RING THUMB SIGNWRITING_HAND-CLAW_: FOUR_FINGERS_CONJOINED
INDEX_THUMB_CURVE_THUMB_INSIDE MIDDLE_RING_LITTLE_CONJOINED MIDDLE_RING_LITTLE_CONJOINED_SIDE
NO_THUMB THUMB_FORWARD THUMB_SIDE SIGNWRITING_HAND-CUP_: FIVE_FINGERS_SPREAD
FIVE_FINGERS_SPREAD_OPEN INDEX INDEX_RING_LITTLE INDEX_THUMB INDEX_THUMB_OPEN MIDDLE_RING_LITTLE
NO_THUMB OPEN OPEN_NO_THUMB OPEN_THUMB_FORWARD OPEN_THUMB_SIDE THUMB_FORWARD THUMB_SIDE
SIGNWRITING_HAND-FIST_INDEX_: BENT BENT_OVER_MIDDLE CUPPED HINGED HINGED_LOW HINGED_MIDDLE_UP
HINGED_MIDDLE_UP_THUMB_SIDE MIDDLE RAISED_KNUCKLE RING_LITTLE UP_MIDDLE_HINGED
UP_MIDDLE_HINGED_THUMB_CONJOINED UP_MIDDLE_HINGED_THUMB_SIDE SIGNWRITING_HAND-FIST_INDEX_MIDDLE_:
BENT BENT_THUMB_STRAIGHT CONJOINED CROSS_LITTLE CROSSED CROSSED_THUMB_SIDE HINGED
HINGED_SPREAD_THUMB_SIDE LITTLE RAISED_KNUCKLES RING RING_BENT RING_CONJOINED STRAIGHT_THUMB_BENT
THUMB UP_SPREAD_THUMB_FORWARD SIGNWRITING_HAND-FIST_INDEX_MIDDLE_CONJOINED_: CUPPED
CUPPED_THUMB_FORWARD HINGED HINGED_THUMB_SIDE INDEX_BENT MIDDLE_BENT THUMB_FORWARD THUMB_SIDE
THUMB_SIDE_BENT THUMB_SIDE_CONJOINED SIGNWRITING_HAND-FIST_INDEX_MIDDLE_THUMB_: ANGLED ANGLED_OUT
BENT CIRCLED CONJOINED_HINGED CUPPED HINGED HOOKED SIGNWRITING_HAND-FIST_INDEX_THUMB_:
ANGLED_IN_MIDDLE_UP ANGLED_OUT_MIDDLE_UP CIRCLE CIRCLED_MIDDLE_UP CUPPED_MIDDLE_UP CURLICUE
CURVE_THUMB_INSIDE CURVE_THUMB_UNDER FORWARD_INDEX_BENT FORWARD_INDEX_STRAIGHT HOOK
HOOKED_MIDDLE_HINGED HOOKED_MIDDLE_UP SIDE SIDE_BOTH_BENT SIDE_INDEX_BENT SIDE_INDEX_HINGE
SIDE_THUMB_BENT SIDE_THUMB_CONJOINED SIDE_THUMB_DIAGONAL SIGNWRITING_HAND-FIST_LITTLE_: BENT DOWN
DOWN_OTHERS_CIRCLED DOWN_RIPPLE_CURVED DOWN_RIPPLE_STRAIGHT INDEX INDEX_THUMB RAISED_KNUCKLE THUMB
TOUCHES_THUMB UP SIGNWRITING_HAND-FIST_MIDDLE_: BENT_OVER_INDEX DOWN LITTLE RAISED_KNUCKLE
RING_LITTLE UP UP_THUMB_SIDE SIGNWRITING_HAND-FIST_MIDDLE_THUMB_: ANGLED_INDEX_UP
ANGLED_OUT_INDEX_CROSSED ANGLED_OUT_INDEX_UP CIRCLED_INDEX_HINGED CIRCLED_INDEX_UP CUPPED_INDEX_UP
HOOKED_INDEX_UP LITTLE SIGNWRITING_HAND-FIST_RING_: DOWN INDEX LITTLE MIDDLE MIDDLE_CONJOINED
MIDDLE_RAISED_KNUCKLES RAISED_KNUCKLE THUMB UP SIGNWRITING_HAND-FIST_THUMB_: BETWEEN_INDEX_MIDDLE
BETWEEN_INDEX_MIDDLE_STRAIGHT BETWEEN_MIDDLE_RING BETWEEN_RING_LITTLE FORWARD HEEL
OVER_FOUR_RAISED_KNUCKLES OVER_TWO_FINGERS SIDE_BENT SIDE_CONJOINED SIDE_DIAGONAL UNDER_FOUR_FINGERS
UNDER_INDEX_BENT UNDER_LITTLE_UP UNDER_THREE_FINGERS UNDER_TWO_FINGERS SIGNWRITING_HAND-FLAT_:
BETWEEN_PALM_FACINGS FIVE_FINGERS_SPREAD FOUR_FINGERS HEEL HEEL_THUMB_SIDE SPLIT_CENTRE
SPLIT_CENTRE_THUMB_SIDE SPLIT_CENTRE_THUMB_SIDE_BENT SPLIT_INDEX_THUMB_SIDE SPLIT_LITTLE THUMB_BENT
THUMB_FORWARD THUMB_SIDE SIGNWRITING_HAND-FLAT_FIVE_FINGERS_SPREAD_: BENT FOUR_BENT HINGED
HINGED_NO_THUMB HINGED_THUMB_SIDE THUMB_FORWARD SIGNWRITING_HAND-FLAT_FOUR_FINGERS_: BENT CONJOINED
CONJOINED_SPLIT HINGED SIGNWRITING_HAND-FLAT_HEEL_FIVE_FINGERS_: SPREAD SPREAD_BENT SPREAD_FOUR_BENT
SIGNWRITING_HAND-HINGE_: FIVE_FINGERS_SPREAD_OPEN FOUR_FINGERS_CONJOINED INDEX LITTLE LITTLE_INDEX
LITTLE_INDEX_THUMB LITTLE_THUMB MIDDLE MIDDLE_RING_LITTLE NO_THUMB OPEN OPEN_NO_THUMB
OPEN_THUMB_FORWARD OPEN_THUMB_SIDE RING RING_DOWN_INDEX_THUMB_HOOK_MIDDLE SMALL
THUMB_BETWEEN_MIDDLE_RING THUMB_SIDE THUMB_SIDE_TOUCHING_INDEX SIGNWRITING_HAND-HINGE_INDEX_: HINGED
MIDDLE_LITTLE MIDDLE_RING MIDDLE_RING_CONJOINED RING_LITTLE THUMB THUMB_LARGE THUMB_OPEN THUMB_SIDE
THUMB_SMALL SIGNWRITING_HAND-HOOK_INDEX_RING_LITTLE_: IN OUT UNDER
SIGNWRITING_HAND-HOOK_MIDDLE_RING_LITTLE_: CONJOINED CONJOINED_IN CONJOINED_OUT
SIGNWRITING_HAND-OVAL_: FIVE_FINGERS_SPREAD INDEX LITTLE_UP NO_THUMB RING_LITTLE THUMB_FORWARD
THUMB_SIDE SIGNWRITING_HEAD_MOVEMENT-FLOORPLANE_: CURVE STRAIGHT
SIGNWRITING_HEAD_MOVEMENT-WALLPLANE_: CURVE STRAIGHT TILT SIGNWRITING_LIMB_LENGTH-: 1 2 3 4 5 6 7
SIGNWRITING_LOCATION_: DEPTH HEAD_NECK HEIGHT LIMBS_DIGITS TORSO WIDTH SIGNWRITING_MOUTH_:
CLOSED_CONTACT CLOSED_FORWARD CLOSED_NEUTRAL CORNERS FROWN FROWN_OPEN FROWN_WRINKLED KISS
KISS_FORWARD KISS_WRINKLED SMILE SMILE_OPEN SMILE_WRINKLED TENSE TENSE_FORWARD TENSE_SUCKED
WRINKLES_DOUBLE WRINKLES_SINGLE SIGNWRITING_MOUTH_OPEN_: CIRCLE FORWARD OVAL OVAL_WRINKLED OVAL_YAWN
RECTANGLE RECTANGLE_WRINKLED RECTANGLE_YAWN WRINKLED SIGNWRITING_MOVEMENT-DIAGONAL_AWAY_:
SIGNWRITING_MOVEMENT-DIAGONAL_TOWARDS_: SIGNWRITING_MOVEMENT-FLOORPLANE_SINGLE_STRAIGHT_:
SIGNWRITING_MOVEMENT-WALLPLANE_SINGLE_STRAIGHT_: LARGE LARGEST MEDIUM SMALL
SIGNWRITING_MOVEMENT-DIAGONAL_BETWEEN_: AWAY_LARGE AWAY_LARGEST AWAY_MEDIUM AWAY_SMALL TOWARDS_LARGE
TOWARDS_LARGEST TOWARDS_MEDIUM TOWARDS_SMALL SIGNWRITING_MOVEMENT-FLOORPLANE_: BEND BOX_LARGE
BOX_MEDIUM BOX_SMALL CHECK CORNER_LARGE CORNER_MEDIUM CORNER_SMALL CROSS DOUBLE_ALTERNATING
DOUBLE_ALTERNATING_WRIST_FLEX DOUBLE_STRAIGHT DOUBLE_WRIST_FLEX FINGER_CIRCLES_HITTING_WALL_DOUBLE
FINGER_CIRCLES_HITTING_WALL_SINGLE FINGER_CONTACT HUMP_SMALL JAW LOOP_SMALL PEAKS_LARGE PEAKS_MEDIUM
PEAKS_SMALL SHAKING_PARALLEL SINGLE_WRIST_FLEX TRIPLE_ALTERNATING_MOVEMENT
TRIPLE_ALTERNATING_WRIST_FLEX TRIPLE_STRAIGHT_MOVEMENT TRIPLE_WRIST_FLEX WAVE_LARGE WAVE_SMALL
WAVE_SNAKE WRIST_CIRCLE_HITTING_WALL_DOUBLE WRIST_CIRCLE_HITTING_WALL_SINGLE ZIGZAG_LARGE
ZIGZAG_MEDIUM ZIGZAG_SMALL SIGNWRITING_MOVEMENT-FLOORPLANE_ARM_CIRCLE_HITTING_WALL_: LARGE_DOUBLE
LARGE_SINGLE MEDIUM_DOUBLE MEDIUM_SINGLE SMALL_DOUBLE SMALL_SINGLE
SIGNWRITING_MOVEMENT-FLOORPLANE_CURVE_: COMBINED HITTING_CEILING_LARGE HITTING_CEILING_SMALL
HITTING_FLOOR_LARGE HITTING_FLOOR_SMALL LARGE LARGEST MEDIUM SMALL
SIGNWRITING_MOVEMENT-FLOORPLANE_HUMP_HITTING_: CEILING_LARGE_DOUBLE CEILING_LARGE_TRIPLE
CEILING_SMALL_DOUBLE CEILING_SMALL_TRIPLE FLOOR_LARGE_DOUBLE FLOOR_SMALL_DOUBLE
FLOOR_TRIPLE_LARGE_TRIPLE FLOOR_TRIPLE_SMALL_TRIPLE SIGNWRITING_MOVEMENT-FLOORPLANE_LOOP_HITTING_:
CEILING_LARGE_DOUBLE CEILING_LARGE_SINGLE CEILING_SMALL_DOUBLE CEILING_SMALL_SINGLE
FLOOR_LARGE_DOUBLE FLOOR_LARGE_SINGLE FLOOR_SMALL_DOUBLE FLOOR_SMALL_SINGLE
SIGNWRITING_MOVEMENT-FLOORPLANE_WAVE_HITTING_: CEILING_LARGE CEILING_SMALL FLOOR_LARGE FLOOR_SMALL
SIGNWRITING_MOVEMENT-HINGE_: DOWN_SEQUENTIAL SIDE_TO_SIDE_SCISSORS UP_DOWN_ALTERNATING_LARGE
UP_DOWN_ALTERNATING_SMALL UP_DOWN_LARGE UP_DOWN_SMALL UP_SEQUENTIAL SIGNWRITING_MOVEMENT-WALLPLANE_:
ARM_CIRCLE_MEDIUM_DOUBLE ARM_CIRCLE_MEDIUM_SINGLE ARM_CIRCLE_SMALL_DOUBLE ARM_CIRCLE_SMALL_SINGLE
BEND_LARGE BEND_MEDIUM BEND_SMALL BOX_LARGE BOX_MEDIUM BOX_SMALL CHECK_LARGE CHECK_MEDIUM
CHECK_SMALL CORNER_LARGE CORNER_MEDIUM CORNER_ROTATION CORNER_SMALL CROSS CURVED_CROSS_MEDIUM
CURVED_CROSS_SMALL DOUBLE_ALTERNATING DOUBLE_ALTERNATING_WRIST_FLEX DOUBLE_STRAIGHT
DOUBLE_WRIST_FLEX FINGER_CIRCLES_DOUBLE FINGER_CIRCLES_SINGLE FINGER_CONTACT HUMP_HITTING_CHEST
HUMP_HITTING_FRONT_WALL HUMP_LARGE HUMP_MEDIUM HUMP_SMALL JAW LOOP_HITTING_CHEST
LOOP_HITTING_FRONT_WALL LOOP_LARGE LOOP_MEDIUM LOOP_SMALL LOOP_SMALL_DOUBLE PEAKS_LARGE PEAKS_MEDIUM
PEAKS_SMALL SHAKING SINGLE_WRIST_FLEX TRIPLE_ALTERNATING TRIPLE_ALTERNATING_WRIST_FLEX
TRIPLE_STRAIGHT_MOVEMENT TRIPLE_WRIST_FLEX WAVE_HITTING_CHEST WAVE_HITTING_FRONT_WALL
WRIST_CIRCLE_FRONT_DOUBLE WRIST_CIRCLE_FRONT_SINGLE ZIGZAG_LARGE ZIGZAG_MEDIUM ZIGZAG_SMALL
SIGNWRITING_MOVEMENT-WALLPLANE_CURVE_: HALF-CIRCLE_LARGE HALF-CIRCLE_LARGEST HALF-CIRCLE_MEDIUM
HALF-CIRCLE_SMALL HITTING_CHEST HITTING_FRONT_WALL QUARTER_LARGE QUARTER_LARGEST QUARTER_MEDIUM
QUARTER_SMALL THEN_STRAIGHT THREE-QUARTER_CIRCLE_MEDIUM THREE-QUARTER_CIRCLE_SMALL
SIGNWRITING_MOVEMENT-WALLPLANE_WAVE_CURVE_: DOUBLE_LARGE DOUBLE_MEDIUM DOUBLE_SMALL TRIPLE_LARGE
TRIPLE_MEDIUM TRIPLE_SMALL SIGNWRITING_MOVEMENT-WALLPLANE_WAVE_DIAGONAL_PATH_: LARGE MEDIUM SMALL
SIGNWRITING_NOSE_: CONTACT NEUTRAL WIGGLES WRINKLES SIGNWRITING_ROTATION_MODIFIER-: 10 11 12 13 14
15 16 2 3 4 5 6 7 8 9 SIGNWRITING_ROTATION-FLOORPLANE_: ALTERNATING ALTERNATING_HITTING_CEILING
ALTERNATING_HITTING_FLOOR DOUBLE DOUBLE_HITTING_CEILING DOUBLE_HITTING_FLOOR SINGLE
SINGLE_HITTING_CEILING SINGLE_HITTING_FLOOR SIGNWRITING_ROTATION-WALLPLANE_: ALTERNATE
ALTERNATING_HITTING_CHEST ALTERNATING_HITTING_FRONT_WALL DOUBLE DOUBLE_HITTING_CHEST
DOUBLE_HITTING_FRONT_WALL SINGLE SINGLE_HITTING_CHEST SINGLE_HITTING_FRONT_WALL
SIGNWRITING_SHOULDER_: HIP_POSITIONS HIP_SPINE TILTING_FROM_WAIST SIGNWRITING_SQUEEZE_:
FLICK_ALTERNATING LARGE_MULTIPLE LARGE_SINGLE SEQUENTIAL SMALL_MULTIPLE SMALL_SINGLE
SIGNWRITING_TEETH_: BITE_LIPS MOVEMENT ON_LIPS ON_LIPS_MOVEMENT ON_TONGUE ON_TONGUE_MOVEMENT
SIGNWRITING_TENSE_CHEEKS_: HIGH LOW MIDDLE SIGNWRITING_TONGUE_: CENTRE_INSIDE_MOUTH
CENTRE_STICKING_OUT INSIDE_MOUTH_RELAXED LICKING_LIPS MOVES_AGAINST_CHEEK STICKING_OUT_FAR
TIP_BETWEEN_LIPS TIP_TOUCHING_INSIDE_MOUTH SIGNWRITING_TORSO-WALLPLANE_: CURVED_BEND
STRAIGHT_STRETCH SIGNWRITING_TRAVEL-FLOORPLANE_ROTATION-FLOORPLANE_:
SIGNWRITING_TRAVEL-FLOORPLANE_ROTATION-WALLPLANE_:
SIGNWRITING_TRAVEL-WALLPLANE_ROTATION-FLOORPLANE_: SIGNWRITING_TRAVEL-WALLPLANE_ROTATION-WALLPLANE_:
ALTERNATING DOUBLE SINGLE SIGNWRITING_TRAVEL-WALLPLANE_ARM_SPIRAL_: DOUBLE SINGLE TRIPLE
TALLY_MARK_: FIVE ONE TETRAGRAM_FOR_: ACCUMULATION ADVANCE AGGRAVATION ASCENT BARRIER
BOLD_RESOLUTION BRANCHING_OUT CENTRE CHANGE CLOSED_MOUTH CLOSENESS CLOSURE COMPLETION COMPLIANCE
CONSTANCY CONTACT CONTENTION CONTRARIETY DARKENING DECISIVENESS DEFECTIVENESS_OR_DISTORTION
DEPARTURE DIFFICULTIES DIMINISHMENT DIMMING DIVERGENCE DOUBT DUTIES EASE EMBELLISHMENT ENCOUNTERS
ENDEAVOUR ENLARGEMENT ETERNITY EXHAUSTION FAILURE FLIGHT FOLLOWING FOSTERING FULL_CIRCLE FULLNESS
GATHERING GATHERING_IN GOING_TO_MEET GREATNESS GUARDEDNESS HARDNESS HOLDING_BACK INCREASE INNER JOY
KEEPING_SMALL KINSHIP LABOURING LAW_OR_MODEL LEGION MASSING MEASURE MIRED ON_THE_VERGE OPPOSITION
PACKING PATTERN PENETRATION PURITY REACH RELEASE RESIDENCE RESISTANCE RESPONSE RITUAL SEVERANCE
SINKING STOPPAGE STOVE STRENGTH UNITY VASTNESS_OR_WASTING WAITING WATCH YOUTHFULNESS TOTO_LETTER_: A
AE BA CHA DA E EO GA HA I IU JA KA LA MA NA NGA O PA RA SA TA U WA YA TOTO_LETTER_BREATHY_: AE E EO
I IU WANCHO_LETTER_: A AA AAN AANG ANG AU BA CA DA E EN FA GA HA I ING JA KA KHA LA LLHA MA NA NGA
NYA O ON ONG PA PHA RA SA SHA TA THA TRA TSA U UEN VA WA YA YIH ZA WANCHO_TONE_: KOI KOINI TUP TUPNI
ZNAMENNY_COMBINING_: ATTACHING_VERTICAL_OMET LOWER_TONAL_RANGE_INDICATOR ZNAMENNY_COMBINING_MARK_:
BORZAYA CHASHKA CHASHKA_POLNAYA CURVED_OMET DEMESTVENNY_ZADERZHKA DVOETOCHIE GORAZDO_VYSOKO KACHKA
KRYZH KRYZH_ON_LEFT KUPNAYA LOMKA NIZKO_ON_LEFT NIZKO_ON_RIGHT NIZKO_S_KRYZHEM_ON_LEFT
NIZKO_S_KRYZHEM_ON_RIGHT OBLACHKO ON OTSECHKA PODCHASHIE PODCHASHIE_WITH_VERTICAL_STROKE PODVERTKA
RAVNO RAZSEKA SKOBA SOROCHYA_NOZHKA SREDNE_ON_LEFT SREDNE_ON_RIGHT STRANNO_MALO_POVYSHE TIKHAYA
TOCHKA TSATA_ON_LEFT TSATA_ON_RIGHT TSATA_S_KRYZHEM UDARKA ZADERZHKA ZELO ZEVOK
ZNAMENNY_COMBINING_MARK_GORAZDO_NIZKO_: ON_LEFT ON_RIGHT S_KRYZHEM_ON_LEFT S_KRYZHEM_ON_RIGHT
ZNAMENNY_COMBINING_MARK_MALO_POVYSHE_: ZNAMENNY_COMBINING_MARK_POVYSHE_: ON_LEFT ON_RIGHT
S_KHOKHLOM_ON_LEFT S_KHOKHLOM_ON_RIGHT S_KRYZHEM STRANNO ZNAMENNY_COMBINING_MARK_VYSOKO_: ON_LEFT
ON_RIGHT S_KHOKHLOM_ON_LEFT S_KHOKHLOM_ON_RIGHT S_KRYZHEM ZNAMENNY_COMBINING_TONAL_RANGE_MARK_:
MRACHNO SVETLO TRESVETLO ZNAMENNY_NEUME_: CHASHKA CHELYUSTKA DEMESTVENNY_KLYUCH DERBITSA
DOUBLE_ZAPYATAYA DUDA DVA_V_CHELNU FITA KHAMILO KLYUCH KOBYLA KRYUK KRYUK_TIKHY KRYZH KUFISMA MECHIK
NEMKA OBLAKO OSOKA PALKA PARAKLIT PAUK PEREVODKA PEREVODKA_NEPOSTOYANNAYA PODCHASHIE POLKULIZMY
REVERSED_CHELYUSTKA ROG SLOZHITIE STATYA STOPITSA STOPITSA_S_OCHKOM STOPITSA_WITH_SOROCHYA_NOZHKA
ZANOZHEK ZAPYATAYA ZMEYTSA ZNAMENNY_NEUME_GOLUBCHIK_: BORZY MRACHNY SVETLY TIKHY TRESVETLY
ZNAMENNY_NEUME_MECHIK_: KLYUCHENEPOSTOYANNY KLYUCHEPOVODNY KLYUCHEVOY POVODNY ZNAMENNY_NEUME_OSOKA_:
KLYUCHEVAYA_NEPOSTOYANNAYA KLYUCHEVAYA_SVETLAYA KRYUKOVAYA_SVETLAYA SVETLAYA TRESVETLAYA
ZNAMENNY_NEUME_SKAMEYTSA_: KLYUCHENEPOSTOYANNAYA KLYUCHEVAYA_SVETLAYA KLYUCHEVAYA_TIKHAYA MRACHNAYA
SVETLAYA TIKHAYA TRESVETLAYA ZNAMENNY_NEUME_SKAMEYTSA_DVOECHELNAYA_: KLYUCHEVAYA NEPOSTOYANNAYA
PROSTAYA SVETLAYA ZNAMENNY_NEUME_SLOZHITIE_: S_KRYZHEM S_ZAPYATOY ZAKRYTOE ZNAMENNY_NEUME_STATYA_:
NEPOSTOYANNAYA S_DVUMYA_ZAPYATYMI S_KRYZHEM S_KRYZHEM_I_ZAPYATOY S_ROGOM S_ZAPYATOY
S_ZAPYATOY_I_KRYZHEM S_ZAPYATOY_I_PODCHASHIEM ZAKRYTAYA ZAKRYTAYA_S_ZAPYATOY ZNAMENNY_NEUME_STRELA_:
DVOECHELNAYA DVOECHELNAYA_KLYUCHEVAYA DVOECHELNOKRYZHEVAYA DVOECHELNOPOVODNAYA
DVOECHELNOPOVODNAYA_KLYUCHEVAYA GROMNAYA GROMNAYA_WITH_SINGLE_ZAPYATAYA GROMOKRYZHEVAYA
GROMOKRYZHEVAYA_POVODNAYA GROMOPOVODNAYA GROMOPOVODNAYA_WITH_DOUBLE_ZAPYATAYA
GROMOPOVODNAYA_WITH_SINGLE_ZAPYATAYA KLYUCHENEPOSTOYANNAYA KLYUCHEPOVODNAYA KRYUKOVAYA KRYZHEVAYA
MRACHNOTIKHAYA NEPOSTOYANNAYA POLUPOVODNAYA POVODNAYA PROSTAYA TIKHAYA_PUTNAYA TRYASOGLASNAYA
TRYASOPOVODNAYA TRYASOSTRELNAYA ZNAMENNY_NEUME_STRELA_KRYUKOVAYA_: GROMNAYA
GROMNAYA_WITH_SINGLE_ZAPYATAYA GROMOKRYZHEVAYA GROMOKRYZHEVAYA_POVODNAYA GROMOPOVODNAYA
GROMOPOVODNAYA_WITH_DOUBLE_ZAPYATAYA GROMOPOVODNAYA_WITH_SINGLE_ZAPYATAYA POVODNAYA TRYASKA
ZNAMENNY_NEUME_VRAKHIYA_: ZNAMENNY_NEUME_VRAKHIYA_KLYUCHEVAYA_: MRACHNAYA PROSTAYA SVETLAYA
TRESVETLAYA ZNAMENNY_PRIZNAK_MODIFIER_: DIRECTION_FLIP KRYZH LEVEL-2 LEVEL-3 ROG
"

end Sabotage.Text.CharacterName

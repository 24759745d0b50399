/-!
# The letters of the older part of the code space

Alphabets and syllabaries below the code point 2000 in hexadecimal, with their signs and digits.
-/

namespace Sabotage.Text.CharacterName

/-- The listing of these names. -/
def letterNames : String := "
: ACUTE_ACCENT AFGHANI_SIGN AMPERSAND APOSTROPHE ASTERISK BREVE BROKEN_BAR CARON CEDILLA CENT_SIGN
CIRCUMFLEX_ACCENT COLON COMMA COMMERCIAL_AT COPYRIGHT_SIGN CURRENCY_SIGN DEGREE_SIGN DIAERESIS
DIVISION_SIGN DOLLAR_SIGN DOT_ABOVE DOUBLE_ACUTE_ACCENT EQUALS_SIGN EXCLAMATION_MARK
FEMININE_ORDINAL_INDICATOR FULL_STOP GEORGIAN_PARAGRAPH_SEPARATOR GRAVE_ACCENT GREATER-THAN_SIGN
HANUNOO_SIGN_PAMUDPOD HEBREW_YOD_TRIANGLE HYPHEN-MINUS KHMER_CURRENCY_SYMBOL_RIEL
LEFT-POINTING_DOUBLE_ANGLE_QUOTATION_MARK LESS-THAN_SIGN LOW_LINE MACRON MASCULINE_ORDINAL_INDICATOR
MICRO_SIGN MIDDLE_DOT MULTIPLICATION_SIGN NO-BREAK_SPACE NOT_SIGN NUMBER_SIGN OGONEK PERCENT_SIGN
PILCROW_SIGN PLUS_SIGN PLUS-MINUS_SIGN POUND_SIGN QUESTION_MARK QUOTATION_MARK REGISTERED_SIGN
REVERSE_SOLIDUS RIGHT-POINTING_DOUBLE_ANGLE_QUOTATION_MARK RING_ABOVE SAMARITAN_ABBREVIATION_MARK
SECTION_SIGN SEMICOLON SINHALA_PUNCTUATION_KUNDDALIYA SMALL_TILDE SOFT_HYPHEN SOLIDUS SPACE
SUNDANESE_AVAGRAHA TAI_THAM_COMBINING_CRYPTOGRAMMIC_DOT THAI_CURRENCY_SYMBOL_BAHT TILDE
VERTICAL_LINE YEN_SIGN ARABIC_: BASELINE_ROUND_DOT COMMA DAMMA DAMMA_WITH_DOT DAMMATAN
DATE_SEPARATOR DECIMAL_SEPARATOR DISPUTED_END_OF_AYAH DOUBLED_MADDA END_OF_AYAH END_OF_TEXT_MARK
FATHA FATHATAN FIVE_POINTED_STAR FOOTNOTE_MARKER FULL_STOP HALF_MADDA_OVER_MADDA HAMZA_ABOVE
HAMZA_BELOW INVERTED_DAMMA KASRA KASRA_WITH_DOT_BELOW KASRATAN LARGE_CIRCLE_BELOW MADDA_WAAJIB
MADDAH_ABOVE MARK_NOON_GHUNNA MARK_SIDEWAYS_NOON_GHUNNA NUMBER_MARK_ABOVE NUMBER_SIGN PERCENT_SIGN
PIASTRE_MARK_ABOVE PLACE_OF_SAJDAH POETIC_VERSE_SIGN POUND_MARK_ABOVE QUESTION_MARK RAISED_ROUND_DOT
RAY REVERSED_DAMMA ROUNDED_HIGH_STOP_WITH_FILLED_CENTRE SEMICOLON SHADDA START_OF_RUB_EL_HIZB
SUBSCRIPT_ALEF SUKUN SUKUN_BELOW SUPERSCRIPT_ALEF_MOKHASSAS TATWEEL THOUSANDS_SEPARATOR
TRIPLE_DOT_PUNCTUATION_MARK TURNED_DAMMA_BELOW VERTICAL_TAIL WAVY_HAMZA_BELOW ZWARAKAY
ARABIC_CURLY_: DAMMA DAMMATAN FATHA FATHATAN KASRA KASRATAN ARABIC_DOUBLE_RIGHT_ARROWHEAD_: ABOVE
ABOVE_WITH_DOT ARABIC_EMPTY_CENTRE_: HIGH_STOP LOW_STOP ARABIC_FATHA_WITH_: DOT_ABOVE RING TWO_DOTS
ARABIC_LARGE_ROUND_DOT_: ABOVE BELOW INSIDE_CIRCLE_BELOW ARABIC_LEFT_ARROWHEAD_:
ARABIC_LETTER_JEEM_WITH_THREE_DOTS_: ARABIC_LETTER_SAD_WITH_THREE_DOTS_: COMBINING_ALMOST_EQUAL_TO_:
SYRIAC_OBLIQUE_LINE_: SYRIAC_THREE_DOTS_: SYRIAC_TWO_VERTICAL_DOTS_: ABOVE BELOW ARABIC_LETTER_: AE
AIN ALEF ALEF_MAKSURA ALEF_WASLA BEEH BEH BEHEH DAD DAD_WITH_DOT_BELOW DAHAL DAL DDAHAL DDAL
DOTLESS_BEH DOTLESS_FEH DOTLESS_QAF DUL DYEH E FARSI_YEH FEH GAF GHAIN GHAIN_WITH_DOT_BELOW
GHAIN_WITH_THREE_DOTS_ABOVE GRAF GUEH HAH HAMZA HEH HEH_DOACHASHMEE HEH_GOAL
HEH_GOAL_WITH_HAMZA_ABOVE HEH_WITH_INVERTED_V HEH_WITH_YEH_ABOVE HIGH_HAMZA JEEM
JEEM_WITH_TWO_DOTS_ABOVE JEH KAF KASHMIRI_YEH KEHEH KHAH KIRGHIZ_OE KIRGHIZ_YU LAM LOW_ALEF MARK
MEEM NG NGOEH NOON NOON_GHUNNA NYEH OE PEH PEH_WITH_SMALL_MEEM_ABOVE PEH_WITH_SMALL_V PEHEH QAF REH
RNOON ROHINGYA_YEH RREH SAD SAD_WITH_TWO_DOTS_BELOW SEEN SHEEN SHEEN_WITH_DOT_BELOW STRAIGHT_WAW
SUPERSCRIPT_ALEF SWASH_KAF TAH TCHEH TCHEH_WITH_DOT_ABOVE TCHEH_WITH_SMALL_V TCHEHEH TEH TEH_MARBUTA
TEH_MARBUTA_GOAL TEHEH THAL THEH THIN_YEH TTEH TTEH_WITH_SMALL_V TTEHEH U U_WITH_HAMZA_ABOVE VE VEH
WAW YEH YEH_BARREE YEH_BARREE_WITH_HAMZA_ABOVE YU ZAH ZAIN ZAIN_WITH_INVERTED_V_ABOVE
ARABIC_LETTER_AFRICAN_: FEH NOON QAF QAF_WITH_THREE_DOTS_ABOVE ARABIC_LETTER_AIN_WITH_THREE_DOTS_:
ABOVE BELOW POINTING_DOWNWARDS_ABOVE ARABIC_LETTER_AIN_WITH_TWO_DOTS_: ABOVE VERTICALLY_ABOVE
ARABIC_LETTER_ALEF_WITH_: DOT_ABOVE HAMZA_ABOVE HAMZA_BELOW LEFT_MIDDLE_STROKE MADDA_ABOVE
RIGHT_MIDDLE_STROKE RIGHT_MIDDLE_STROKE_AND_DOT_ABOVE RIGHT_MIDDLE_STROKE_AND_LEFT_RING
WAVY_HAMZA_ABOVE WAVY_HAMZA_BELOW ARABIC_LETTER_ALEF_WITH_ATTACHED_: BOTTOM_RIGHT_KASRA
BOTTOM_RIGHT_KASRA_AND_DOT_ABOVE BOTTOM_RIGHT_KASRA_AND_LEFT_RING FATHA KASRA LEFT_HAMZA
LEFT_ROUND_DOT RIGHT_HAMZA RIGHT_ROUND_DOT ROUND_DOT_ABOVE ROUND_DOT_BELOW TOP_RIGHT_FATHA
TOP_RIGHT_FATHA_AND_DOT_ABOVE TOP_RIGHT_FATHA_AND_LEFT_RING
ARABIC_LETTER_ALEF_WITH_EXTENDED_ARABIC-INDIC_DIGIT_:
ARABIC_LETTER_WAW_WITH_EXTENDED_ARABIC-INDIC_DIGIT_:
ARABIC_LETTER_YEH_BARREE_WITH_EXTENDED_ARABIC-INDIC_DIGIT_: THREE_ABOVE TWO_ABOVE
ARABIC_LETTER_BEH_WITH_: DOT_BELOW_AND_THREE_DOTS_ABOVE HAMZA_ABOVE INVERTED_SMALL_V_BELOW
SMALL_MEEM_ABOVE SMALL_V SMALL_V_BELOW THREE_DOTS_HORIZONTALLY_BELOW TWO_DOTS_BELOW_AND_DOT_ABOVE
ARABIC_LETTER_BEH_WITH_THREE_DOTS_POINTING_UPWARDS_: BELOW BELOW_AND_TWO_DOTS_ABOVE
ARABIC_LETTER_DAL_WITH_: DOT_BELOW DOT_BELOW_AND_SMALL_TAH FOUR_DOTS_ABOVE INVERTED_SMALL_V_BELOW
INVERTED_V RING THREE_DOTS_ABOVE_DOWNWARDS THREE_DOTS_BELOW TWO_DOTS_VERTICALLY_BELOW_AND_SMALL_TAH
ARABIC_LETTER_FARSI_YEH_WITH_: INVERTED_V THREE_DOTS_ABOVE TWO_DOTS_ABOVE
ARABIC_LETTER_FARSI_YEH_WITH_EXTENDED_ARABIC-INDIC_DIGIT_: FOUR_BELOW THREE_ABOVE TWO_ABOVE
ARABIC_LETTER_FEH_WITH_: DOT_BELOW DOT_BELOW_AND_THREE_DOTS_ABOVE DOT_MOVED_BELOW THREE_DOTS_BELOW
THREE_DOTS_POINTING_UPWARDS_BELOW TWO_DOTS_BELOW ARABIC_LETTER_GAF_WITH_: INVERTED_STROKE RING
THREE_DOTS_ABOVE TWO_DOTS_BELOW ARABIC_LETTER_HAH_WITH_: EXTENDED_ARABIC-INDIC_DIGIT_FOUR_BELOW
HAMZA_ABOVE INVERTED_SMALL_V_BELOW THREE_DOTS_ABOVE THREE_DOTS_POINTING_UPWARDS_BELOW TWO_DOTS_ABOVE
TWO_DOTS_VERTICAL_ABOVE ARABIC_LETTER_HAH_WITH_SMALL_ARABIC_LETTER_TAH_: ABOVE AND_TWO_DOTS BELOW
ARABIC_LETTER_HIGH_HAMZA_: ALEF WAW YEH ARABIC_LETTER_KAF_WITH_: DOT_ABOVE DOT_BELOW RING
THREE_DOTS_BELOW TWO_DOTS_ABOVE ARABIC_LETTER_KEHEH_WITH_: DOT_ABOVE SMALL_V THREE_DOTS_ABOVE
THREE_DOTS_BELOW THREE_DOTS_POINTING_UPWARDS_BELOW TWO_DOTS_ABOVE TWO_DOTS_VERTICALLY_BELOW
ARABIC_LETTER_LAM_WITH_: BAR DOT_ABOVE DOUBLE_BAR SMALL_ARABIC_LETTER_TAH_ABOVE SMALL_V
THREE_DOTS_ABOVE THREE_DOTS_BELOW ARABIC_LETTER_MEEM_WITH_: DOT_ABOVE DOT_BELOW THREE_DOTS_ABOVE
ARABIC_LETTER_NOON_WITH_: DOT_BELOW INVERTED_SMALL_V RING SMALL_TAH SMALL_V THREE_DOTS_ABOVE
TWO_DOTS_BELOW ARABIC_LETTER_QAF_WITH_: DOT_ABOVE DOT_BELOW DOT_BELOW_AND_NO_DOTS_ABOVE
THREE_DOTS_ABOVE ARABIC_LETTER_REH_WITH_: DOT_BELOW DOT_BELOW_AND_DOT_ABOVE FOUR_DOTS_ABOVE
HAMZA_ABOVE INVERTED_V LOOP RING SMALL_ARABIC_LETTER_TAH_AND_TWO_DOTS SMALL_NOON_ABOVE SMALL_V
SMALL_V_BELOW STROKE TWO_DOTS_ABOVE TWO_DOTS_VERTICALLY_ABOVE ARABIC_LETTER_SEEN_WITH_:
DOT_BELOW_AND_DOT_ABOVE EXTENDED_ARABIC-INDIC_DIGIT_FOUR_ABOVE FOUR_DOTS_ABOVE INVERTED_V
SMALL_ARABIC_LETTER_TAH_AND_TWO_DOTS THREE_DOTS_BELOW THREE_DOTS_BELOW_AND_THREE_DOTS_ABOVE
TWO_DOTS_VERTICALLY_ABOVE ARABIC_LETTER_TAH_WITH_: DOT_BELOW THREE_DOTS_ABOVE THREE_DOTS_BELOW
TWO_DOTS_ABOVE ARABIC_LETTER_TEH_WITH_: RING SMALL_TEH_ABOVE SMALL_V THREE_DOTS_ABOVE_DOWNWARDS
ARABIC_LETTER_WAW_WITH_: DOT_ABOVE DOT_WITHIN HAMZA_ABOVE RING TWO_DOTS_ABOVE
ARABIC_LETTER_YEH_WITH_: HAMZA_ABOVE SMALL_V TAIL THREE_DOTS_BELOW
ARABIC_LETTER_YEH_WITH_TWO_DOTS_BELOW_AND_: DOT_ABOVE HAMZA_ABOVE SMALL_NOON_ABOVE ARABIC_OPEN_:
DAMMATAN FATHATAN KASRATAN ARABIC_RIGHT_ARROWHEAD_: ABOVE ABOVE_WITH_DOT BELOW ARABIC_SIGN_:
ALAYHE_ASSALLAM MISRA RADI_ALLAHOU_ANHU RAHMATULLAH_ALAYHE SAFHA SALLALLAHOU_ALAYHE_WASSALLAM SAMVAT
SANAH SINDHI_AMPERSAND SINDHI_POSTPOSITION_MEN TAKHALLUS ARABIC_SMALL_: DAMMA FARSI_YEH FATHA KASRA
WAW YEH ARABIC_SMALL_HIGH_: AIN DOTLESS_HEAD_OF_KHAH FARSI_YEH FOOTNOTE_MARKER JEEM LAM_ALEF
LIGATURE_ALEF_WITH_LAM_WITH_YEH LIGATURE_QAF_WITH_LAM_WITH_ALEF_MAKSURA
LIGATURE_SAD_WITH_LAM_WITH_ALEF_MAKSURA MADDA MEEM_INITIAL_FORM MEEM_ISOLATED_FORM NOON
NOON_WITH_KASRA QAF ROUNDED_ZERO SAD SEEN SIGN_SAFHA TAH THREE_DOTS UPRIGHT_RECTANGULAR_ZERO WAW YEH
YEH_BARREE_WITH_TWO_DOTS_BELOW ZAH ZAIN ARABIC_SMALL_HIGH_WORD_: AL-JUZ AN-NISF AR-RUB AS-SAJDA
ATH-THALATHA QIF SAH SAKTA WAQFA ARABIC_SMALL_LOW_: MEEM NOON_WITH_KASRA SEEN WAW WORD_IMAALA
WORD_ISHMAAM WORD_TASHEEL ARABIC_TATWEEL_WITH_: OVERSTRUCK_HAMZA OVERSTRUCK_WAW TWO_DOTS_BELOW
ARABIC_TONE_: LOOP_ABOVE LOOP_BELOW ONE_DOT_ABOVE ONE_DOT_BELOW TWO_DOTS_ABOVE TWO_DOTS_BELOW
ARABIC_VOWEL_SIGN_: DOT_BELOW INVERTED_SMALL_V_ABOVE SMALL_V_ABOVE ARABIC-INDIC_: CUBE_ROOT
FOURTH_ROOT PER_MILLE_SIGN PER_TEN_THOUSAND_SIGN ARABIC-INDIC_DIGIT_: BALINESE_DIGIT_:
BENGALI_DIGIT_: DEVANAGARI_DIGIT_: DIGIT_: EXTENDED_ARABIC-INDIC_DIGIT_: GUJARATI_DIGIT_:
GURMUKHI_DIGIT_: KANNADA_DIGIT_: KHMER_DIGIT_: LAO_DIGIT_: LEPCHA_DIGIT_: LIMBU_DIGIT_:
MALAYALAM_DIGIT_: MONGOLIAN_DIGIT_: MYANMAR_DIGIT_: MYANMAR_SHAN_DIGIT_: NEW_TAI_LUE_DIGIT_:
NKO_DIGIT_: OL_CHIKI_DIGIT_: ORIYA_DIGIT_: SINHALA_LITH_DIGIT_: SUNDANESE_DIGIT_:
TAI_THAM_HORA_DIGIT_: TAI_THAM_THAM_DIGIT_: TAMIL_DIGIT_: TELUGU_DIGIT_: THAI_DIGIT_:
TIBETAN_DIGIT_: TIBETAN_DIGIT_HALF_: EIGHT FIVE FOUR NINE ONE SEVEN SIX THREE TWO ZERO ARMENIAN_:
ABBREVIATION_MARK APOSTROPHE COMMA DRAM_SIGN EMPHASIS_MARK EXCLAMATION_MARK FULL_STOP HYPHEN
MODIFIER_LETTER_LEFT_HALF_RING QUESTION_MARK SMALL_LIGATURE_ECH_YIWN ARMENIAN_CAPITAL_LETTER_: AYB
BEN CA CHA CHEH CO DA ECH EH ET FEH GHAD GIM HO INI JA JHEH KEH KEN LIWN MEN NOW OH PEH PIWR RA REH
SEH SHA TIWN TO VEW VO XEH YI YIWN ZA ZHE ARMENIAN_SMALL_LETTER_: AYB BEN CA CHA CHEH CO DA ECH EH
ET FEH GHAD GIM HO INI JA JHEH KEH KEN LIWN MEN NOW OH PEH PIWR RA REH SEH SHA TIWN TO TURNED_AYB
VEW VO XEH YI YI_WITH_STROKE YIWN ZA ZHE BALINESE_: ADEG_ADEG PAMADA PAMADA_LANTANG PAMENENG PANTI
PANTI_LANTANG WINDU BALINESE_CARIK_: PAMUNGKAH PAREREN SIKI BALINESE_LETTER_: AIKARA AKARA
AKARA_TEDUNG ARCHAIC_JNYA ASYURA_SASAK BA BA_KEMBANG CA CA_LACA DA DA_MADU DA_MURDA_ALPAPRANA
DA_MURDA_MAHAPRANA EF_SASAK EKARA GA GA_GORA HA IKARA IKARA_TEDUNG JA JA_JERA KA KA_MAHAPRANA
KAF_SASAK KHOT_SASAK LA LA_LENGA LA_LENGA_TEDUNG MA NA NA_RAMBAT NGA NYA OKARA OKARA_TEDUNG PA
PA_KAPAL RA RA_REPA RA_REPA_TEDUNG SA SA_SAGA SA_SAPA TA TA_LATIK TA_MURDA_MAHAPRANA TA_TAWA
TZIR_SASAK UKARA UKARA_TEDUNG VE_SASAK WA YA ZAL_SASAK BALINESE_MUSICAL_SYMBOL_: DAENG DAING DANG
DANG_GEDE DANG_SURANG DENG DEUNG DING DONG DUNG BALINESE_MUSICAL_SYMBOL_COMBINING_: BENDE ENDEP GONG
JEGOGAN KEMPLI KEMPLI_WITH_JEGOGAN KEMPUL KEMPUL_WITH_JEGOGAN TEGEH
BALINESE_MUSICAL_SYMBOL_LEFT-HAND_: CLOSED_PLAK CLOSED_PLUK OPEN_PANG OPEN_PING OPEN_PUNG
BALINESE_MUSICAL_SYMBOL_RIGHT-HAND_: CLOSED_TAK CLOSED_TUK OPEN_DAG OPEN_DUG BALINESE_SIGN_: BISAH
CECEK REREKAN SURANG ULU_CANDRA ULU_RICEM BALINESE_VOWEL_SIGN_: LA_LENGA LA_LENGA_TEDUNG PEPET
PEPET_TEDUNG RA_REPA RA_REPA_TEDUNG SUKU SUKU_ILUT TALING TALING_REPA TALING_REPA_TEDUNG
TALING_TEDUNG TEDUNG ULU ULU_SARI BATAK_: PANGOLAT PANONGONAN SIGN_TOMPI BATAK_CONSONANT_SIGN_: H NG
BATAK_LETTER_: A BA CA DA GA HA I JA KARO_BA LA MA MBA NA NDA NGA NORTHERN_TA NYA PA PAKPAK_WA RA SA
SOUTHERN_TA U WA YA BATAK_LETTER_MANDAILING_: HA NA SA BATAK_LETTER_SIMALUNGUN_: A GA HA LA MA PA RA
SA WA YA BATAK_SYMBOL_BINDU_: JUDUL NA_METEK PANGOLAT PINARBORAS BATAK_VOWEL_SIGN_: E EE I KARO_I
KARO_O O PAKPAK_E U U_FOR_SIMALUNGUN_SA BENGALI_: ABBREVIATION_SIGN ANJI AU_LENGTH_MARK
CURRENCY_DENOMINATOR_SIXTEEN GANDA_MARK ISSHAR RUPEE_MARK RUPEE_SIGN SANDHI_MARK
BENGALI_CURRENCY_NUMERATOR_: FOUR ONE ONE_LESS_THAN_THE_DENOMINATOR THREE TWO BENGALI_LETTER_: A AA
AI AU BA BHA CA CHA DA DDA DDHA DHA E GA GHA HA I II JA JHA KA KHA KHANDA_TA LA MA NA NGA NNA NYA O
PA PHA RA RA_WITH_LOWER_DIAGONAL RA_WITH_MIDDLE_DIAGONAL RHA RRA SA SHA SSA TA THA TTA TTHA U UU
VEDIC_ANUSVARA YA YYA BENGALI_LETTER_VOCALIC_: BENGALI_VOWEL_SIGN_VOCALIC_:
DEVANAGARI_LETTER_VOCALIC_: GUJARATI_LETTER_VOCALIC_: GUJARATI_VOWEL_SIGN_VOCALIC_:
KANNADA_LETTER_VOCALIC_: KANNADA_VOWEL_SIGN_VOCALIC_: MALAYALAM_LETTER_VOCALIC_:
MALAYALAM_VOWEL_SIGN_VOCALIC_: MYANMAR_LETTER_VOCALIC_: MYANMAR_VOWEL_SIGN_VOCALIC_:
ORIYA_LETTER_VOCALIC_: ORIYA_VOWEL_SIGN_VOCALIC_: TELUGU_LETTER_VOCALIC_:
TELUGU_VOWEL_SIGN_VOCALIC_: TIBETAN_VOWEL_SIGN_VOCALIC_: L LL R RR BENGALI_SIGN_: ANUSVARA AVAGRAHA
CANDRABINDU NUKTA VIRAMA VISARGA BENGALI_VOWEL_SIGN_: ORIYA_VOWEL_SIGN_: AA AI AU E I II O U UU
BUGINESE_: END_OF_SECTION PALLAWA BUGINESE_LETTER_: A BA CA DA GA HA JA KA LA MA MPA NA NGA NGKA NRA
NYA NYCA PA RA SA TA VA YA BUGINESE_VOWEL_SIGN_: AE E I O U BUHID_LETTER_: HANUNOO_LETTER_: A BA DA
GA HA I KA LA MA NA NGA PA RA SA TA U WA YA BUHID_VOWEL_SIGN_: HANUNOO_VOWEL_SIGN_:
TAGALOG_VOWEL_SIGN_: TAGBANWA_VOWEL_SIGN_: I U CANADIAN_SYLLABICS_: A AA AAI AAY AI AIVILIK_B AN
ATHAPASCAN_M ATHAPASCAN_S AY BEAVER_DENE_L BEAVER_DENE_R BIBLE-CREE_Y C CA CAA CAAI CE CHI_SIGN CI
CII CO COO CWA CWAA CWE CWI CWII CWO CWOO E EASTERN_W EN F FA FAA FAAI FE FI FII FO FOO FULL_STOP
FWAA GLOTTAL_STOP HK HYPHEN I II IN K KA KAA KAAI KAY KE KI KII KO KOO KW KWA KWAA KWAY KWE KWI KWII
KWO KWOO L LA LAA LAAI LAY LE LH LHA LHAA LHI LHII LHO LHOO LI LII LO LOO LWA LWAA LWE LWI LWII LWO
LWOO M MA MAA MAAI MAY ME MEDIAL_L MEDIAL_R MH MI MII MO MOO MOOSE-CREE_SK MWA MWAA MWE MWI MWII MWO
MWOO N N-CREE_THE N-CREE_THI N-CREE_THII NA NAA NAAI NAY NE NG NGA NGAA NGAAI NGAI NGI NGII NGO NGOO
NH NI NII NNG NNGA NNGAA NNGI NNGII NNGO NNGOO NO NOO NOY NUNAVUT_H NWA NWAA NWE NWI NWII NWO NWOO O
ON OO OY P PA PAA PAAI PAY PE PI PII PO POO POY PWA PWAA PWE PWI PWII PWO PWOO PWOY Q QA QAA QAAI
QAI QI QII QO QOO R R-CREE_RE R-CREE_RWE RA RAA RAAI RAY RE RI RII RO ROO RWA RWAA RWEE RWI RWII RWO
RWOO S SA SAA SAAI SAY SE SH SHA SHAA SHAY SHE SHI SHII SHO SHOO SHOY SHWA SHWAA SHWE SHWI SHWII
SHWO SHWOO SHWOY SI SII SO SOO SOY SW SWA SWAA SWE SWI SWII SWO SWOO T TA TAA TAAI TAY TE TH THA
THAA THE THI THII THO THOO THWA THWAA THWE TI TII TLHA TLHE TLHI TLHO TLHOO TLHWE TO TOO TTA TTE TTH
TTHA TTHAA TTHE TTHI TTHO TTHOO TTHWE TTI TTO TWA TWAA TWE TWI TWII TWO TWOO TYA TYE TYI TYO WA WAA
WAY WE WESTERN_W WI WII WO WOO Y YA YAA YAAI YAY YE YI YII YO YOO YOY YWA YWAA YWE YWI YWII YWO YWOO
CANADIAN_SYLLABICS_BLACKFOOT_: A E I KA KE KI KO NA NE NI NO O S W WA WE WI WO
CANADIAN_SYLLABICS_CARRIER_: CHA CHE CHEE CHI CHO CHU DEE DENE_GEE DENTAL_S DI DLA DLE DLEE DLI DLO
DLU DZA DZE DZEE DZI DZO DZU EE GA GAA GE GEE GHA GHE GHEE GHI GHO GHU GI GO GU GWA GWU H HEE HI HWA
HWE HWEE HWI HWO HWU I INITIAL_Z JA JE JEE JI JJA JJE JJEE JJI JJO JJU JO JU JWA KHA KHE KHEE KHI
KHO KHU KK KKA KKE KKEE KKI KKO KKU LA LE LEE LHA LHE LHEE LHI LHO LHU LI LO LU MA ME MEE MI MO MU
NA NE NEE NG NI NO NU P PA PE PEE PI PO PU RA RE REE RI RO RU SA SE SEE SH SHA SHE SHEE SHI SHO SHU
SI SO SU THA THE THEE THI THO THU TLA TLE TLEE TLHA TLHE TLHEE TLHI TLHO TLHU TLI TLO TLU TSA TSE
TSEE TSI TSO TSU TTA TTE TTEE TTI TTO TTSA TTSE TTSEE TTSI TTSO TTSU TTU WA WE WEE WI WO WU YA YE
YEE YI YO YU Z ZA ZE ZEE ZI ZO ZU CANADIAN_SYLLABICS_FINAL_: ACUTE BOTTOM_HALF_RING DOUBLE_ACUTE
DOUBLE_SHORT_VERTICAL_STROKES DOWN_TACK GRAVE MIDDLE_DOT PLUS RAISED_DOT RIGHT_HALF_RING RING
SHORT_HORIZONTAL_STROKE SMALL_RING TOP_HALF_RING CANADIAN_SYLLABICS_NASKAPI_: CWAA KWAA MWAA NWAA
S-W SCWA SKW SKWA SPWA STWA SWAA TWAA WAA WOO YWAA CANADIAN_SYLLABICS_NUNAVIK_: H HA HAA HE HI HII
HO HOO CANADIAN_SYLLABICS_OJIBWAY_: C K M N NWI NWII NWO NWOO P S SH T CANADIAN_SYLLABICS_SAYISI_:
HA HE HI HO HOO JI JU JUU M SHA SHE SHI SHO SHOO SHWE TH YI CANADIAN_SYLLABICS_SOUTH-SLAVEY_: KAH
KEH KIH KOH CANADIAN_SYLLABICS_TH-CREE_: TH THA THAA THE THI THII THO THOO
CANADIAN_SYLLABICS_WEST-CREE_: CWA CWAA CWE CWI CWII CWO CWOO FWAA KWA KWAA KWE KWI KWII KWO KWOO L
LA LAA LE LO LOO LWA LWAA LWE LWI LWII LWO LWOO M MWA MWAA MWE MWI MWII MWO MWOO NWA NWAA NWE P PWA
PWAA PWE PWI PWII PWO PWOO R RA RE RI RO RWAA SHWA SHWAA SHWE SHWI SHWII SHWO SHWOO SWA SWAA SWE SWI
SWII SWO SWOO THWAA TWA TWAA TWE TWI TWII TWO TWOO WA WAA WE WI WII WO WOO Y YWA YWAA YWE YWI YWII
YWO YWOO CANADIAN_SYLLABICS_WOODS-CREE_: FINAL_TH TH THA THE THI THO THWA THWAA THWEE THWI THWII
THWO THWOO CANADIAN_SYLLABICS_Y-CREE_: COO KOO LOO MOO NOO OO POO PWAA SOO TOO W YOO
CHEROKEE_LETTER_: A DA DE DI DLA DO DU DV E GA GE GI GO GU GV HA HE HI HNA HO HU HV I KA LA LE LI LO
LU LV MA ME MI MO MU MV NA NAH NE NI NO NU NV O QUA QUE QUI QUO QUU QUV S SA SE SI SO SU SV TA TE TI
TLA TLE TLI TLO TLU TLV TSA TSE TSI TSO TSU TSV U V WA WE WI WO WU WV YA YE YI YO YU YV
CHEROKEE_SMALL_LETTER_: MV YE YI YO YU YV COMBINING_: ACUTE_ACCENT ACUTE_ACCENT_BELOW
ACUTE_TONE_MARK ACUTE-GRAVE-ACUTE ACUTE-MACRON ASTERISK_BELOW BREVE BREVE_BELOW BREVE-MACRON
BRIDGE_ABOVE BRIDGE_BELOW CANDRABINDU CARON CARON_BELOW CEDILLA CIRCUMFLEX_ACCENT
CIRCUMFLEX_ACCENT_BELOW COMMA_ABOVE COMMA_ABOVE_RIGHT COMMA_BELOW DELETION_MARK DIAERESIS
DIAERESIS_BELOW DIAERESIS-RING DOTTED_ACUTE_ACCENT DOTTED_GRAVE_ACCENT DOUBLED_CIRCUMFLEX_ACCENT
DOWN_TACK_BELOW DOWNWARDS_ARROW EQUALS_SIGN_BELOW FERMATA GRAPHEME_JOINER GRAVE_ACCENT
GRAVE_ACCENT_BELOW GRAVE_TONE_MARK GRAVE-ACUTE-GRAVE GRAVE-MACRON HOMOTHETIC_ABOVE HOOK_ABOVE HORN
INFINITY IS_BELOW LIGHT_CENTRALIZATION_STROKE_BELOW LONG_SOLIDUS_OVERLAY LONG_STROKE_OVERLAY
LOW_LINE MACRON MACRON_BELOW MINUS_SIGN_BELOW NOT_TILDE_ABOVE NUMBER_SIGN_ABOVE OGONEK OGONEK_ABOVE
OPEN_MARK_BELOW OVERLINE PALATALIZED_HOOK_BELOW PLUS_SIGN_ABOVE PLUS_SIGN_BELOW RETROFLEX_HOOK_BELOW
REVERSED_COMMA_ABOVE RING_ABOVE RING_BELOW SEAGULL_BELOW SHORT_SOLIDUS_OVERLAY SHORT_STROKE_OVERLAY
SNAKE_BELOW SQUARE_BELOW SQUARE_BRACKETS_ABOVE STRONG_CENTRALIZATION_STROKE_BELOW SUSPENSION_MARK
TILDE TILDE_BELOW TILDE_OVERLAY TRIPLE_ACUTE_ACCENT TRIPLE_DOT TURNED_COMMA_ABOVE UP_TACK_ABOVE
UP_TACK_BELOW UPWARDS_ARROW_BELOW UR_ABOVE US_ABOVE WIDE_INVERTED_BRIDGE_BELOW WIGGLY_LINE_BELOW
X_ABOVE X_BELOW X-X_BELOW ZIGZAG_ABOVE ZIGZAG_BELOW COMBINING_CYRILLIC_: DASIA_PNEUMATA
HUNDRED_THOUSANDS_SIGN MILLIONS_SIGN PALATALIZATION POKRYTIE PSILI_PNEUMATA TITLO COMBINING_DOT_:
ABOVE ABOVE_LEFT ABOVE_RIGHT BELOW BELOW_LEFT COMBINING_DOUBLE_: ACUTE_ACCENT BREVE BREVE_BELOW
CIRCUMFLEX_ABOVE GRAVE_ACCENT INVERTED_BREVE INVERTED_BREVE_BELOW LOW_LINE MACRON MACRON_BELOW
OPEN_MARK_BELOW OVERLINE PARENTHESES_ABOVE PLUS_SIGN_ABOVE PLUS_SIGN_BELOW RIGHTWARDS_ARROW_BELOW
RING_BELOW TILDE VERTICAL_LINE_ABOVE VERTICAL_LINE_BELOW COMBINING_GREEK_: DIALYTIKA_TONOS KORONIS
PERISPOMENI YPOGEGRAMMENI COMBINING_INVERTED_: BREVE BREVE_BELOW BRIDGE_BELOW DOUBLE_ARCH_ABOVE
DOUBLE_ARCH_BELOW COMBINING_KAVYKA_ABOVE_: SYRIAC_COLON_SKEWED_: LEFT RIGHT
COMBINING_LATIN_LETTER_SMALL_CAPITAL_: G L M N R COMBINING_LATIN_SMALL_LETTER_: A A_WITH_DIAERESIS
AE ALPHA AO AV B BETA C C_CEDILLA D E ESH ETH F FLATTENED_OPEN_A_ABOVE G H I INSULAR_D INSULAR_G
INSULAR_R INSULAR_T K L L_WITH_DOUBLE_MIDDLE_TILDE LONG_S M N O O_WITH_DIAERESIS
O_WITH_LIGHT_CENTRALIZATION_STROKE P R R_BELOW R_ROTUNDA S SCHWA T TURNED_W_BELOW U U_WITH_DIAERESIS
U_WITH_LIGHT_CENTRALIZATION_STROKE V W W_BELOW X Z COMBINING_LEFT_: ANGLE_ABOVE ANGLE_BELOW
ARROWHEAD_ABOVE ARROWHEAD_BELOW HALF_RING_ABOVE HALF_RING_BELOW PARENTHESIS_ABOVE_LEFT
PARENTHESIS_BELOW_LEFT RIGHT_ARROW_BELOW TACK_BELOW COMBINING_MACRON-: ACUTE BREVE GRAVE
COMBINING_PARENTHESES_: ABOVE BELOW OVERLAY COMBINING_RIGHT_: HALF_RING_ABOVE HALF_RING_BELOW
PARENTHESIS_ABOVE_RIGHT PARENTHESIS_BELOW_RIGHT TACK_BELOW COMBINING_RIGHT_ARROWHEAD_: ABOVE
AND_DOWN_ARROWHEAD_BELOW AND_UP_ARROWHEAD_BELOW BELOW COMBINING_VERTICAL_: LINE_ABOVE LINE_BELOW
TILDE COPTIC_CAPITAL_LETTER_: COPTIC_SMALL_LETTER_: DEI FEI GANGIA HORI KHEI SHEI SHIMA CYRILLIC_:
LETTER_PALOCHKA LETTER_SMALL_CAPITAL_EL THOUSANDS_SIGN CYRILLIC_CAPITAL_LETTER_: A A_WITH_BREVE
A_WITH_DIAERESIS ALEUT_KA BARRED_O BARRED_O_WITH_DIAERESIS BASHKIR_KA BE BIG_YUS
BYELORUSSIAN-UKRAINIAN_I CHE CHE_WITH_DESCENDER CHE_WITH_DIAERESIS CHE_WITH_VERTICAL_STROKE DCHE DE
DJE DZE DZHE DZZHE E E_WITH_DIAERESIS EF EL EL_WITH_DESCENDER EL_WITH_HOOK EL_WITH_MIDDLE_HOOK
EL_WITH_TAIL EM EM_WITH_TAIL EN ER ER_WITH_TICK ES ES_WITH_DESCENDER FITA GHE GJE HA
HA_WITH_DESCENDER HA_WITH_HOOK HA_WITH_STROKE HARD_SIGN I I_WITH_DIAERESIS I_WITH_GRAVE
I_WITH_MACRON IE IE_WITH_BREVE IE_WITH_GRAVE IO IOTIFIED_BIG_YUS IOTIFIED_E IOTIFIED_LITTLE_YUS
IZHITSA IZHITSA_WITH_DOUBLE_GRAVE_ACCENT JE KA KA_WITH_DESCENDER KA_WITH_HOOK KA_WITH_STROKE
KA_WITH_VERTICAL_STROKE KHAKASSIAN_CHE KJE KOPPA KSI LHA LITTLE_YUS LJE NJE O O_WITH_DIAERESIS OMEGA
OMEGA_WITH_TITLO OT PE PE_WITH_DESCENDER PE_WITH_MIDDLE_HOOK PSI QA REVERSED_ZE RHA ROUND_OMEGA
SCHWA SCHWA_WITH_DIAERESIS SEMISOFT_SIGN SHA SHCHA SHHA SHHA_WITH_DESCENDER SHORT_I
SHORT_I_WITH_TAIL SHORT_U SOFT_SIGN STRAIGHT_U STRAIGHT_U_WITH_STROKE TE TE_WITH_DESCENDER TSE TSHE
U U_WITH_DIAERESIS U_WITH_DOUBLE_ACUTE U_WITH_MACRON UK UKRAINIAN_IE VE WE YA YAE YAT YERU
YERU_WITH_DIAERESIS YI YU ZE ZE_WITH_DESCENDER ZE_WITH_DIAERESIS ZHE ZHE_WITH_BREVE
ZHE_WITH_DESCENDER ZHE_WITH_DIAERESIS CYRILLIC_CAPITAL_LETTER_ABKHASIAN_:
CYRILLIC_SMALL_LETTER_ABKHASIAN_: CHE CHE_WITH_DESCENDER DZE HA CYRILLIC_CAPITAL_LETTER_EN_WITH_:
CYRILLIC_SMALL_LETTER_EN_WITH_: DESCENDER HOOK LEFT_HOOK MIDDLE_HOOK TAIL
CYRILLIC_CAPITAL_LETTER_GHE_WITH_: CYRILLIC_SMALL_LETTER_GHE_WITH_: DESCENDER MIDDLE_HOOK STROKE
STROKE_AND_HOOK UPTURN CYRILLIC_CAPITAL_LETTER_KOMI_: CYRILLIC_SMALL_LETTER_KOMI_: DE DJE DZJE LJE
NJE SJE TJE ZJE CYRILLIC_CAPITAL_LIGATURE_: CYRILLIC_SMALL_LIGATURE_: A_IE EN_GHE TE_TSE
CYRILLIC_SMALL_LETTER_: A A_WITH_BREVE A_WITH_DIAERESIS ALEUT_KA BARRED_O BARRED_O_WITH_DIAERESIS
BASHKIR_KA BE BIG_YUS BYELORUSSIAN-UKRAINIAN_I CHE CHE_WITH_DESCENDER CHE_WITH_DIAERESIS
CHE_WITH_VERTICAL_STROKE DCHE DE DJE DZE DZHE DZZHE E E_WITH_DIAERESIS EF EL EL_WITH_DESCENDER
EL_WITH_HOOK EL_WITH_MIDDLE_HOOK EL_WITH_TAIL EM EM_WITH_TAIL EN ER ER_WITH_TICK ES
ES_WITH_DESCENDER FITA GHE GJE HA HA_WITH_DESCENDER HA_WITH_HOOK HA_WITH_STROKE HARD_SIGN I
I_WITH_DIAERESIS I_WITH_GRAVE I_WITH_MACRON IE IE_WITH_BREVE IE_WITH_GRAVE IO IOTIFIED_BIG_YUS
IOTIFIED_E IOTIFIED_LITTLE_YUS IZHITSA IZHITSA_WITH_DOUBLE_GRAVE_ACCENT JE KA KA_WITH_DESCENDER
KA_WITH_HOOK KA_WITH_STROKE KA_WITH_VERTICAL_STROKE KHAKASSIAN_CHE KJE KOPPA KSI LHA LITTLE_YUS LJE
LONG-LEGGED_DE NARROW_O NJE O O_WITH_DIAERESIS OMEGA OMEGA_WITH_TITLO OT PALOCHKA PE
PE_WITH_DESCENDER PE_WITH_MIDDLE_HOOK PSI QA REVERSED_ZE RHA ROUND_OMEGA ROUNDED_VE SCHWA
SCHWA_WITH_DIAERESIS SEMISOFT_SIGN SHA SHCHA SHHA SHHA_WITH_DESCENDER SHORT_I SHORT_I_WITH_TAIL
SHORT_U SOFT_SIGN STRAIGHT_U STRAIGHT_U_WITH_STROKE TALL_HARD_SIGN TALL_TE TALL_YAT TE
TE_WITH_DESCENDER THREE-LEGGED_TE TSE TSHE U U_WITH_DIAERESIS U_WITH_DOUBLE_ACUTE U_WITH_MACRON UK
UKRAINIAN_IE UNBLENDED_UK VE WE WIDE_ES YA YAE YAT YERU YERU_WITH_DIAERESIS YI YU ZE
ZE_WITH_DESCENDER ZE_WITH_DIAERESIS ZHE ZHE_WITH_BREVE ZHE_WITH_DESCENDER ZHE_WITH_DIAERESIS
DEVANAGARI_: ABBREVIATION_SIGN ACUTE_ACCENT DANDA DOUBLE_DANDA GRAVE_ACCENT OM STRESS_SIGN_ANUDATTA
STRESS_SIGN_UDATTA DEVANAGARI_LETTER_: A AA AI AU AW BA BBA BHA CA CANDRA_A CANDRA_E CANDRA_O CHA DA
DDA DDDA DDDHA DDHA DHA E FA GA GGA GHA GHHA GLOTTAL_STOP HA HEAVY_YA I II JA JHA JJA KA KHA KHHA LA
LLA LLLA MA MARWARI_DDA NA NGA NNA NNNA NYA O OE OOE PA PHA QA RA RHA RRA SA SHA SHORT_A SHORT_E
SHORT_O SSA TA THA TTA TTHA U UE UU UUE VA YA YYA ZA ZHA DEVANAGARI_SIGN_: ANUSVARA AVAGRAHA
CANDRABINDU HIGH_SPACING_DOT INVERTED_CANDRABINDU NUKTA VIRAMA VISARGA DEVANAGARI_VOWEL_SIGN_: AA AI
AU AW CANDRA_E CANDRA_LONG_E CANDRA_O E I II O OE OOE PRISHTHAMATRA_E SHORT_E SHORT_O U UE UU UUE
VOCALIC_L VOCALIC_LL VOCALIC_R VOCALIC_RR ETHIOPIC_: COLON COMBINING_VOWEL_LENGTH_MARK COMMA
FULL_STOP PARAGRAPH_SEPARATOR PREFACE_COLON QUESTION_MARK SECTION_MARK SEMICOLON WORDSPACE
ETHIOPIC_COMBINING_GEMINATION_: AND_VOWEL_LENGTH_MARK MARK ETHIOPIC_DIGIT_: EIGHT FIVE FOUR NINE ONE
SEVEN SIX THREE TWO ETHIOPIC_NUMBER_: EIGHTY FIFTY FORTY HUNDRED NINETY SEVENTY SIXTY TEN
TEN_THOUSAND THIRTY TWENTY ETHIOPIC_SYLLABLE_: BA BAA BE BEE BI BO BU BWA BWE BWEE BWI CA CAA CE CEE
CHA CHAA CHE CHEE CHI CHO CHU CHWA CI CO CU CWA DA DAA DDA DDAA DDE DDEE DDI DDO DDU DDWA DE DEE DI
DO DU DWA FA FAA FE FEE FI FO FU FWA FWE FWEE FWI FYA GA GAA GE GEE GGA GGAA GGE GGEE GGI GGO GGU
GGWAA GI GO GOA GU GWA GWAA GWE GWEE GWI HA HAA HE HEE HHA HHAA HHE HHEE HHI HHO HHU HHWA HI HO HOA
HU JA JAA JE JEE JI JO JU JWA KA KAA KE KEE KI KO KOA KU KWA KWAA KWE KWEE KWI KXA KXAA KXE KXEE KXI
KXO KXU KXWA KXWAA KXWE KXWEE KXWI LA LAA LE LEE LI LO LU LWA MA MAA ME MEE MI MO MU MWA MWE MWEE
MWI MYA NA NAA NE NEE NI NO NU NWA NYA NYAA NYE NYEE NYI NYO NYU NYWA PA PAA PE PEE PHA PHAA PHE
PHEE PHI PHO PHU PHWA PI PO PU PWA PWE PWEE PWI QA QAA QE QEE QHA QHAA QHE QHEE QHI QHO QHU QHWA
QHWAA QHWE QHWEE QHWI QI QO QOA QU QWA QWAA QWE QWEE QWI RA RAA RE REE RI RO RU RWA RYA SA SAA SE
SEE SHA SHAA SHE SHEE SHI SHO SHU SHWA SI SO SU SWA SZA SZAA SZE SZEE SZI SZO SZU SZWA TA TAA TE TEE
THA THAA THE THEE THI THO THU THWA TI TO TSA TSAA TSE TSEE TSI TSO TSU TSWA TU TWA TZA TZAA TZE TZEE
TZI TZO TZOA TZU VA VAA VE VEE VI VO VU VWA WA WAA WE WEE WI WO WOA WU XA XAA XE XEE XI XO XOA XU
XWA XWAA XWE XWEE XWI YA YAA YE YEE YI YO YOA YU ZA ZAA ZE ZEE ZHA ZHAA ZHE ZHEE ZHI ZHO ZHU ZHWA ZI
ZO ZU ZWA ETHIOPIC_SYLLABLE_GLOTTAL_: A AA E EE I O U WA ETHIOPIC_SYLLABLE_PHARYNGEAL_: A AA E EE I
O U ETHIOPIC_SYLLABLE_SEBATBEIT_: BWA FWA MWA PWA ETHIOPIC_TONAL_MARK_: CHIRET DERET DERET-HIDET
DIFAT HIDET KENAT KURT RIKRIK SHORT_RIKRIK YIZET GEORGIAN_CAPITAL_LETTER_: AEN AN BAN CAN CHAR CHIN
CIL DON EN GAN GHAN HAE HAR HE HIE HOE IN JHAN JIL KAN KHAR LAS MAN NAR ON PAR PHAR QAR RAE SAN SHIN
TAN TAR UN VIN WE XAN YN ZEN ZHAR GEORGIAN_LETTER_: GEORGIAN_MTAVRULI_CAPITAL_LETTER_: AEN AIN AN
BAN CAN CHAR CHIN CIL DON ELIFI EN FI GAN GHAN HAE HAR HARD_SIGN HE HIE HOE IN JHAN JIL KAN KHAR
LABIAL_SIGN LAS MAN NAR ON PAR PHAR QAR RAE SAN SHIN TAN TAR TURNED_GAN UN VIN WE XAN YN ZEN ZHAR
GREEK_: ANO_TELEIA BETA_SYMBOL DASIA KAI_SYMBOL KAPPA_SYMBOL KORONIS LOWER_NUMERAL_SIGN
LUNATE_EPSILON_SYMBOL LUNATE_SIGMA_SYMBOL NUMERAL_SIGN OXIA PERISPOMENI PHI_SYMBOL PI_SYMBOL
PROSGEGRAMMENI PSILI QUESTION_MARK REVERSED_LUNATE_EPSILON_SYMBOL RHO_SYMBOL RHO_WITH_STROKE_SYMBOL
SMALL_DOTTED_LUNATE_SIGMA_SYMBOL THETA_SYMBOL TONOS VARIA YPOGEGRAMMENI GREEK_CAPITAL_:
DOTTED_LUNATE_SIGMA_SYMBOL KAI_SYMBOL LUNATE_SIGMA_SYMBOL REVERSED_DOTTED_LUNATE_SIGMA_SYMBOL
REVERSED_LUNATE_SIGMA_SYMBOL THETA_SYMBOL GREEK_CAPITAL_LETTER_: ALPHA ARCHAIC_SAMPI BETA CHI DELTA
EPSILON ETA GAMMA HETA IOTA KAPPA LAMDA MU NU OMEGA OMICRON PAMPHYLIAN_DIGAMMA PHI PI PSI RHO
RHO_WITH_DASIA SAN SHO SIGMA TAU THETA UPSILON XI YOT ZETA GREEK_CAPITAL_LETTER_ALPHA_WITH_: DASIA
MACRON OXIA PROSGEGRAMMENI PSILI TONOS VARIA VRACHY GREEK_CAPITAL_LETTER_ALPHA_WITH_DASIA_AND_:
GREEK_CAPITAL_LETTER_ALPHA_WITH_PSILI_AND_: GREEK_CAPITAL_LETTER_ETA_WITH_DASIA_AND_:
GREEK_CAPITAL_LETTER_ETA_WITH_PSILI_AND_: GREEK_CAPITAL_LETTER_OMEGA_WITH_DASIA_AND_:
GREEK_CAPITAL_LETTER_OMEGA_WITH_PSILI_AND_: OXIA OXIA_AND_PROSGEGRAMMENI PERISPOMENI
PERISPOMENI_AND_PROSGEGRAMMENI PROSGEGRAMMENI VARIA VARIA_AND_PROSGEGRAMMENI
GREEK_CAPITAL_LETTER_EPSILON_WITH_: GREEK_CAPITAL_LETTER_OMICRON_WITH_:
GREEK_SMALL_LETTER_EPSILON_WITH_: GREEK_SMALL_LETTER_OMICRON_WITH_: DASIA DASIA_AND_OXIA
DASIA_AND_VARIA OXIA PSILI PSILI_AND_OXIA PSILI_AND_VARIA TONOS VARIA
GREEK_CAPITAL_LETTER_ETA_WITH_: GREEK_CAPITAL_LETTER_OMEGA_WITH_: DASIA OXIA PROSGEGRAMMENI PSILI
TONOS VARIA GREEK_CAPITAL_LETTER_IOTA_WITH_: DASIA DASIA_AND_OXIA DASIA_AND_PERISPOMENI
DASIA_AND_VARIA DIALYTIKA MACRON OXIA PSILI PSILI_AND_OXIA PSILI_AND_PERISPOMENI PSILI_AND_VARIA
TONOS VARIA VRACHY GREEK_CAPITAL_LETTER_UPSILON_WITH_: DASIA DASIA_AND_OXIA DASIA_AND_PERISPOMENI
DASIA_AND_VARIA DIALYTIKA MACRON OXIA TONOS VARIA VRACHY GREEK_DASIA_AND_: GREEK_PSILI_AND_: OXIA
PERISPOMENI VARIA GREEK_DIALYTIKA_: AND_OXIA AND_PERISPOMENI AND_VARIA TONOS GREEK_LETTER_:
ARCHAIC_KOPPA DIGAMMA KOPPA SAMPI STIGMA YOT GREEK_LETTER_SMALL_CAPITAL_: GAMMA LAMDA PI PSI RHO
GREEK_SMALL_LETTER_: ALPHA ARCHAIC_KOPPA ARCHAIC_SAMPI BETA CHI DELTA DIGAMMA EPSILON ETA
FINAL_SIGMA GAMMA HETA IOTA KAPPA KOPPA LAMDA MU NU OMEGA OMICRON PAMPHYLIAN_DIGAMMA PHI PI PSI RHO
RHO_WITH_DASIA RHO_WITH_PSILI SAMPI SAN SHO SIGMA STIGMA TAU THETA UPSILON XI ZETA
GREEK_SMALL_LETTER_ALPHA_WITH_: DASIA MACRON OXIA OXIA_AND_YPOGEGRAMMENI PERISPOMENI
PERISPOMENI_AND_YPOGEGRAMMENI PSILI TONOS VARIA VARIA_AND_YPOGEGRAMMENI VRACHY YPOGEGRAMMENI
GREEK_SMALL_LETTER_ALPHA_WITH_DASIA_AND_: GREEK_SMALL_LETTER_ALPHA_WITH_PSILI_AND_:
GREEK_SMALL_LETTER_ETA_WITH_DASIA_AND_: GREEK_SMALL_LETTER_ETA_WITH_PSILI_AND_:
GREEK_SMALL_LETTER_OMEGA_WITH_DASIA_AND_: GREEK_SMALL_LETTER_OMEGA_WITH_PSILI_AND_: OXIA
OXIA_AND_YPOGEGRAMMENI PERISPOMENI PERISPOMENI_AND_YPOGEGRAMMENI VARIA VARIA_AND_YPOGEGRAMMENI
YPOGEGRAMMENI GREEK_SMALL_LETTER_ETA_WITH_: GREEK_SMALL_LETTER_OMEGA_WITH_: DASIA OXIA
OXIA_AND_YPOGEGRAMMENI PERISPOMENI PERISPOMENI_AND_YPOGEGRAMMENI PSILI TONOS VARIA
VARIA_AND_YPOGEGRAMMENI YPOGEGRAMMENI GREEK_SMALL_LETTER_IOTA_WITH_:
GREEK_SMALL_LETTER_UPSILON_WITH_: DASIA DASIA_AND_OXIA DASIA_AND_PERISPOMENI DASIA_AND_VARIA
DIALYTIKA MACRON OXIA PERISPOMENI PSILI PSILI_AND_OXIA PSILI_AND_PERISPOMENI PSILI_AND_VARIA TONOS
VARIA VRACHY GREEK_SMALL_LETTER_IOTA_WITH_DIALYTIKA_AND_:
GREEK_SMALL_LETTER_UPSILON_WITH_DIALYTIKA_AND_: OXIA PERISPOMENI TONOS VARIA GREEK_SMALL_REVERSED_:
DOTTED_LUNATE_SIGMA_SYMBOL LUNATE_SIGMA_SYMBOL GREEK_SUBSCRIPT_SMALL_LETTER_: BETA CHI GAMMA PHI RHO
GREEK_UPSILON_WITH_: ACUTE_AND_HOOK_SYMBOL DIAERESIS_AND_HOOK_SYMBOL HOOK_SYMBOL GUJARATI_:
ABBREVIATION_SIGN OM RUPEE_SIGN GUJARATI_LETTER_: A AA AI AU BA BHA CA CHA DA DDA DDHA DHA E GA GHA
HA I II JA JHA KA KHA LA LLA MA NA NGA NNA NYA O PA PHA RA SA SHA SSA TA THA TTA TTHA U UU VA YA ZHA
GUJARATI_SIGN_: ANUSVARA AVAGRAHA CANDRABINDU CIRCLE_NUKTA_ABOVE MADDAH NUKTA SHADDA SUKUN
THREE-DOT_NUKTA_ABOVE TWO-CIRCLE_NUKTA_ABOVE VIRAMA VISARGA GUJARATI_VOWEL_CANDRA_: E O
GUJARATI_VOWEL_SIGN_: AA AI AU CANDRA_E CANDRA_O E I II O U UU GURMUKHI_: ABBREVIATION_SIGN ADDAK
EK_ONKAR IRI TIPPI URA GURMUKHI_LETTER_: A AA AI AU BA BHA CA CHA DA DDA DDHA DHA EE FA GA GHA GHHA
HA I II JA JHA KA KHA KHHA LA LLA MA NA NGA NNA NYA OO PA PHA RA RRA SA SHA TA THA TTA TTHA U UU VA
YA ZA GURMUKHI_SIGN_: ADAK_BINDI BINDI NUKTA UDAAT VIRAMA VISARGA YAKASH GURMUKHI_VOWEL_SIGN_: AA AI
AU EE I II OO U UU HANGUL_CHOSEONG_: CEONGCHIEUMCHIEUCH CEONGCHIEUMCIEUC CEONGCHIEUMSIOS
CEONGCHIEUMSSANGCIEUC CEONGCHIEUMSSANGSIOS CHIEUCH CHIEUCH-HIEUH CHIEUCH-KHIEUKH CHITUEUMCHIEUCH
CHITUEUMCIEUC CHITUEUMSIOS CHITUEUMSSANGCIEUC CHITUEUMSSANGSIOS CIEUC CIEUC-IEUNG FILLER HIEUH IEUNG
KAPYEOUNMIEUM KAPYEOUNPHIEUPH KAPYEOUNPIEUP KAPYEOUNRIEUL KAPYEOUNSSANGPIEUP KHIEUKH KIYEOK
KIYEOK-TIKEUT MIEUM MIEUM-PIEUP NIEUN PANSIOS PHIEUPH PHIEUPH-PIEUP PIEUP RIEUL RIEUL-HIEUH
RIEUL-NIEUN SIOS SSANGCIEUC SSANGHIEUH SSANGIEUNG SSANGKIYEOK SSANGNIEUN SSANGPIEUP SSANGRIEUL
SSANGSIOS SSANGTIKEUT THIEUTH TIKEUT TIKEUT-KIYEOK TIKEUT-RIEUL YEORINHIEUH YESIEUNG
HANGUL_CHOSEONG_IEUNG-: CHIEUCH CIEUC KIYEOK MIEUM PANSIOS PHIEUPH PIEUP SIOS THIEUTH TIKEUT
HANGUL_CHOSEONG_NIEUN-: CIEUC HIEUH KIYEOK PIEUP SIOS TIKEUT HANGUL_CHOSEONG_PIEUP-: CHIEUCH CIEUC
KIYEOK NIEUN PHIEUPH SIOS SIOS-CIEUC SIOS-KIYEOK SIOS-PIEUP SIOS-TIKEUT SSANGSIOS THIEUTH TIKEUT
HANGUL_CHOSEONG_SIOS-: CHIEUCH CIEUC HIEUH IEUNG KHIEUKH KIYEOK MIEUM NIEUN PHIEUPH PIEUP
PIEUP-KIYEOK RIEUL SSANGSIOS THIEUTH TIKEUT HANGUL_JONGSEONG_: CHIEUCH CIEUC HIEUH HIEUH-MIEUM
HIEUH-NIEUN HIEUH-PIEUP HIEUH-RIEUL IEUNG IEUNG-KHIEUKH IEUNG-KIYEOK IEUNG-SSANGKIYEOK KAPYEOUNMIEUM
KAPYEOUNPHIEUPH KAPYEOUNPIEUP KHIEUKH KIYEOK MIEUM NIEUN PANSIOS PHIEUPH PHIEUPH-PIEUP PIEUP
PIEUP-HIEUH PIEUP-PHIEUPH PIEUP-RIEUL PIEUP-SIOS RIEUL SIOS SIOS-KIYEOK SIOS-PIEUP SIOS-RIEUL
SIOS-TIKEUT SSANGIEUNG SSANGKIYEOK SSANGNIEUN SSANGRIEUL SSANGSIOS THIEUTH TIKEUT TIKEUT-KIYEOK
TIKEUT-RIEUL YEORINHIEUH YESIEUNG YESIEUNG-PANSIOS YESIEUNG-SIOS HANGUL_JONGSEONG_KIYEOK-: CHIEUCH
HIEUH KHIEUKH NIEUN PIEUP RIEUL SIOS SIOS-KIYEOK HANGUL_JONGSEONG_MIEUM-: CHIEUCH HIEUH KIYEOK
PANSIOS PIEUP RIEUL SIOS SSANGSIOS HANGUL_JONGSEONG_NIEUN-: CIEUC HIEUH KIYEOK PANSIOS SIOS THIEUTH
TIKEUT HANGUL_JONGSEONG_RIEUL-: HIEUH KAPYEOUNPIEUP KHIEUKH KIYEOK KIYEOK-SIOS MIEUM MIEUM-KIYEOK
MIEUM-SIOS NIEUN PANSIOS PHIEUPH PIEUP PIEUP-HIEUH PIEUP-SIOS SIOS SSANGSIOS THIEUTH TIKEUT
TIKEUT-HIEUH YEORINHIEUH HANGUL_JUNGSEONG_: A A-EU A-O A-U AE ARAEA ARAEA-EO ARAEA-I ARAEA-U E EO
EO-EU EO-O EO-U EU EU-EU EU-U FILLER I I-A I-ARAEA I-EU I-O I-U I-YA O O-E O-EO O-O O-U O-YA O-YAE
O-YE OE SSANGARAEA U U-A U-AE U-EO-EU U-U U-YE WA WAE WE WEO WI YA YA-O YA-U YA-YO YAE YE YEO YEO-O
YEO-U YEO-YA YI YI-U YO YO-I YO-O YO-YA YO-YAE YO-YEO YU YU-A YU-E YU-EO YU-I YU-U YU-YE YU-YEO
HEBREW_ACCENT_: ATNAH_HAFUKH DARGA DEHI ETNAHTA GERESH GERESH_MUQDAM GERSHAYIM ILUY MAHAPAKH MERKHA
MERKHA_KEFULA MUNAH OLE PASHTA PAZER QADMA QARNEY_PARA REVIA SEGOL SHALSHELET TELISHA_GEDOLA
TELISHA_QETANA TEVIR TIPEHA YERAH_BEN_YOMO YETIV ZAQEF_GADOL ZAQEF_QATAN ZARQA ZINOR HEBREW_LETTER_:
ALEF AYIN BET DALET GIMEL HE HET KAF LAMED MEM NUN PE QOF RESH SAMEKH SHIN TAV TET TSADI VAV YOD
ZAYIN HEBREW_LETTER_FINAL_: KAF MEM NUN PE TSADI HEBREW_LIGATURE_YIDDISH_: DOUBLE_VAV DOUBLE_YOD
VAV_YOD HEBREW_MARK_: LOWER_DOT MASORA_CIRCLE UPPER_DOT HEBREW_POINT_: DAGESH_OR_MAPIQ HATAF_PATAH
HATAF_QAMATS HATAF_SEGOL HIRIQ HOLAM HOLAM_HASER_FOR_VAV METEG PATAH QAMATS QAMATS_QATAN QUBUTS RAFE
SEGOL SHEVA SHIN_DOT SIN_DOT TSERE HEBREW_PUNCTUATION_: GERESH GERSHAYIM MAQAF NUN_HAFUKHA PASEQ
SOF_PASUQ INVERTED_: EXCLAMATION_MARK QUESTION_MARK KANNADA_: TELUGU_: AI_LENGTH_MARK LENGTH_MARK
KANNADA_LETTER_: A AA AI AU BA BHA CA CHA DA DDA DDHA DHA E EE FA GA GHA HA I II JA JHA KA KHA LA
LLA MA NA NAKAARA_POLLU NGA NNA NYA O OO PA PHA RA RRA SA SHA SSA TA THA TTA TTHA U UU VA YA
KANNADA_SIGN_: ANUSVARA AVAGRAHA CANDRABINDU JIHVAMULIYA NUKTA SIDDHAM SPACING_CANDRABINDU
UPADHMANIYA VIRAMA VISARGA KANNADA_VOWEL_SIGN_: MALAYALAM_VOWEL_SIGN_: TAMIL_VOWEL_SIGN_:
TELUGU_VOWEL_SIGN_: AA AI AU E EE I II O OO U UU KHMER_INDEPENDENT_VOWEL_: LY LYY QAA QAI QAQ QAU QE
QI QII QOO_TYPE_ONE QOO_TYPE_TWO QU QUK QUU QUUV RY RYY KHMER_LETTER_: BA CA CHA CHO CO DA DO HA KA
KHA KHO KO LA LO MO NGO NNO NO NYO PHA PHO PO QA RO SA SHA SSO TA THA THO TO TTHA TTHO VO YO
KHMER_SIGN_: AHSDA ATTHACAN AVAKRAHASANYA BANTOC BARIYOOSAN BATHAMASAT BEYYAL CAMNUC_PII_KUUH COENG
KAKABAT KHAN KOOMUUT LEK_TOO MUUSIKATOAN NIKAHIT PHNAEK_MUAN REAHMUK ROBAT SAMYOK_SANNYA TOANDAKHIAT
TRIISAP VIRIAM YUUKALEAPINTU KHMER_SYMBOL_: BEI_KOET BEI_ROC BUON_KOET BUON_ROC DAP_KOET DAP_ROC
MUOY_KOET MUOY_ROC PATHAMASAT PII_KOET PII_ROC PRAM_KOET PRAM_ROC TUTEYASAT KHMER_SYMBOL_DAP-:
BEI_KOET BEI_ROC BUON_KOET BUON_ROC MUOY_KOET MUOY_ROC PII_KOET PII_ROC PRAM_KOET PRAM_ROC
KHMER_SYMBOL_LEK_ATTAK_: BEI BUON MUOY PII PRAM PRAM-BEI PRAM-BUON PRAM-MUOY PRAM-PII SON
KHMER_SYMBOL_PRAM-: BEI_KOET BEI_ROC BUON_KOET BUON_ROC MUOY_KOET MUOY_ROC PII_KOET PII_ROC
KHMER_VOWEL_INHERENT_: AA AQ KHMER_VOWEL_SIGN_: AA AE AI AU E I IE II OE OO U UA UU Y YA YY LAO_:
CANCELLATION_MARK ELLIPSIS HO_MO HO_NO KO_LA NIGGAHITA SIGN_PALI_VIRAMA LAO_LETTER_: BO CO DO
FO_SUNG FO_TAM HO_SUNG HO_TAM KHMU_GO KHMU_NYO KHO_SUNG KHO_TAM KO LO_LING LO_LOOT MO NGO NO NYO O
PHO_SUNG PHO_TAM PO SANSKRIT_SHA SANSKRIT_SSA SO_SUNG SO_TAM THO_SUNG THO_TAM TO WO YO
LAO_LETTER_PALI_: BHA CHA DDA DDHA DHA GHA JHA LLA NNA NYA TTA TTHA LAO_SEMIVOWEL_SIGN_: LO NYO
LAO_TONE_MAI_: CATAWA EK THO TI LAO_VOWEL_SIGN_: A AA AI AM AY E EI I II MAI_KAN MAI_KON O U UU Y YY
LATIN_CAPITAL_LETTER_: A AE AE_WITH_ACUTE AE_WITH_MACRON AFRICAN_D B C D DZ DZ_WITH_CARON E ENG ESH
ETH EZH EZH_REVERSED EZH_WITH_CARON F F_WITH_DOT_ABOVE F_WITH_HOOK G GAMMA GLOTTAL_STOP H HWAIR I
IOTA J J_WITH_CIRCUMFLEX J_WITH_STROKE K L LJ M M_WITH_ACUTE M_WITH_DOT_ABOVE M_WITH_DOT_BELOW
MIDDLE-WELSH_LL MIDDLE-WELSH_V N NJ O OI OPEN_E OPEN_O OU P P_WITH_ACUTE P_WITH_DOT_ABOVE
P_WITH_HOOK Q R REVERSED_E S SCHWA SHARP_S SMALL_Q_WITH_HOOK_TAIL T THORN TONE_FIVE TONE_SIX
TONE_TWO TURNED_M TURNED_V U U_BAR UPSILON V V_WITH_DOT_BELOW V_WITH_HOOK V_WITH_TILDE W WYNN X
X_WITH_DIAERESIS X_WITH_DOT_ABOVE Y YOGH Z LATIN_CAPITAL_LETTER_A_WITH_: ACUTE BREVE CARON
CIRCUMFLEX DIAERESIS DIAERESIS_AND_MACRON DOT_ABOVE DOT_ABOVE_AND_MACRON DOT_BELOW DOUBLE_GRAVE
GRAVE HOOK_ABOVE INVERTED_BREVE MACRON OGONEK RING_ABOVE RING_ABOVE_AND_ACUTE RING_BELOW STROKE
TILDE LATIN_CAPITAL_LETTER_A_WITH_BREVE_AND_: LATIN_CAPITAL_LETTER_A_WITH_CIRCUMFLEX_AND_:
LATIN_CAPITAL_LETTER_E_WITH_CIRCUMFLEX_AND_: LATIN_CAPITAL_LETTER_O_WITH_CIRCUMFLEX_AND_:
LATIN_CAPITAL_LETTER_O_WITH_HORN_AND_: LATIN_CAPITAL_LETTER_U_WITH_HORN_AND_:
LATIN_SMALL_LETTER_A_WITH_BREVE_AND_: LATIN_SMALL_LETTER_A_WITH_CIRCUMFLEX_AND_:
LATIN_SMALL_LETTER_E_WITH_CIRCUMFLEX_AND_: LATIN_SMALL_LETTER_O_WITH_CIRCUMFLEX_AND_:
LATIN_SMALL_LETTER_O_WITH_HORN_AND_: LATIN_SMALL_LETTER_U_WITH_HORN_AND_: ACUTE DOT_BELOW GRAVE
HOOK_ABOVE TILDE LATIN_CAPITAL_LETTER_B_WITH_: DOT_ABOVE DOT_BELOW HOOK LINE_BELOW STROKE TOPBAR
LATIN_CAPITAL_LETTER_C_WITH_: ACUTE CARON CEDILLA CEDILLA_AND_ACUTE CIRCUMFLEX DOT_ABOVE HOOK STROKE
LATIN_CAPITAL_LETTER_D_WITH_: CARON CEDILLA CIRCUMFLEX_BELOW DOT_ABOVE DOT_BELOW HOOK LINE_BELOW
SMALL_LETTER_Z SMALL_LETTER_Z_WITH_CARON STROKE TOPBAR LATIN_CAPITAL_LETTER_E_WITH_: ACUTE BREVE
CARON CEDILLA CEDILLA_AND_BREVE CIRCUMFLEX CIRCUMFLEX_BELOW DIAERESIS DOT_ABOVE DOT_BELOW
DOUBLE_GRAVE GRAVE HOOK_ABOVE INVERTED_BREVE MACRON MACRON_AND_ACUTE MACRON_AND_GRAVE OGONEK STROKE
TILDE TILDE_BELOW LATIN_CAPITAL_LETTER_G_WITH_: ACUTE BREVE CARON CEDILLA CIRCUMFLEX DOT_ABOVE HOOK
MACRON STROKE LATIN_CAPITAL_LETTER_H_WITH_: BREVE_BELOW CARON CEDILLA CIRCUMFLEX DIAERESIS DOT_ABOVE
DOT_BELOW STROKE LATIN_CAPITAL_LETTER_I_WITH_: ACUTE BREVE CARON CIRCUMFLEX DIAERESIS
DIAERESIS_AND_ACUTE DOT_ABOVE DOT_BELOW DOUBLE_GRAVE GRAVE HOOK_ABOVE INVERTED_BREVE MACRON OGONEK
STROKE TILDE TILDE_BELOW LATIN_CAPITAL_LETTER_K_WITH_: ACUTE CARON CEDILLA DOT_BELOW HOOK LINE_BELOW
LATIN_CAPITAL_LETTER_L_WITH_: ACUTE BAR CARON CEDILLA CIRCUMFLEX_BELOW DOT_BELOW
DOT_BELOW_AND_MACRON LINE_BELOW MIDDLE_DOT SMALL_LETTER_J STROKE LATIN_CAPITAL_LETTER_N_WITH_: ACUTE
CARON CEDILLA CIRCUMFLEX_BELOW DOT_ABOVE DOT_BELOW GRAVE LEFT_HOOK LINE_BELOW LONG_RIGHT_LEG
SMALL_LETTER_J TILDE LATIN_CAPITAL_LETTER_O_WITH_: ACUTE BREVE CARON CIRCUMFLEX DIAERESIS
DIAERESIS_AND_MACRON DOT_ABOVE DOT_ABOVE_AND_MACRON DOT_BELOW DOUBLE_ACUTE DOUBLE_GRAVE GRAVE
HOOK_ABOVE HORN INVERTED_BREVE MACRON MACRON_AND_ACUTE MACRON_AND_GRAVE MIDDLE_TILDE OGONEK
OGONEK_AND_MACRON STROKE STROKE_AND_ACUTE TILDE TILDE_AND_ACUTE TILDE_AND_DIAERESIS TILDE_AND_MACRON
LATIN_CAPITAL_LETTER_R_WITH_: ACUTE CARON CEDILLA DOT_ABOVE DOT_BELOW DOT_BELOW_AND_MACRON
DOUBLE_GRAVE INVERTED_BREVE LINE_BELOW STROKE LATIN_CAPITAL_LETTER_S_WITH_: ACUTE
ACUTE_AND_DOT_ABOVE CARON CARON_AND_DOT_ABOVE CEDILLA CIRCUMFLEX COMMA_BELOW DOT_ABOVE DOT_BELOW
DOT_BELOW_AND_DOT_ABOVE LATIN_CAPITAL_LETTER_T_WITH_: CARON CEDILLA CIRCUMFLEX_BELOW COMMA_BELOW
DIAGONAL_STROKE DOT_ABOVE DOT_BELOW HOOK LINE_BELOW RETROFLEX_HOOK STROKE
LATIN_CAPITAL_LETTER_U_WITH_: ACUTE BREVE CARON CIRCUMFLEX CIRCUMFLEX_BELOW DIAERESIS
DIAERESIS_BELOW DOT_BELOW DOUBLE_ACUTE DOUBLE_GRAVE GRAVE HOOK_ABOVE HORN INVERTED_BREVE MACRON
MACRON_AND_DIAERESIS OGONEK RING_ABOVE TILDE TILDE_AND_ACUTE TILDE_BELOW
LATIN_CAPITAL_LETTER_U_WITH_DIAERESIS_AND_: LATIN_SMALL_LETTER_U_WITH_DIAERESIS_AND_: ACUTE CARON
GRAVE MACRON LATIN_CAPITAL_LETTER_W_WITH_: ACUTE CIRCUMFLEX DIAERESIS DOT_ABOVE DOT_BELOW GRAVE
LATIN_CAPITAL_LETTER_Y_WITH_: ACUTE CIRCUMFLEX DIAERESIS DOT_ABOVE DOT_BELOW GRAVE HOOK HOOK_ABOVE
LOOP MACRON STROKE TILDE LATIN_CAPITAL_LETTER_Z_WITH_: ACUTE CARON CIRCUMFLEX DOT_ABOVE DOT_BELOW
HOOK LINE_BELOW STROKE LATIN_CAPITAL_LIGATURE_: LATIN_SMALL_LIGATURE_: IJ OE LATIN_LETTER_: AIN
ALVEOLAR_CLICK BIDENTAL_PERCUSSIVE BILABIAL_CLICK BILABIAL_PERCUSSIVE DENTAL_CLICK GLOTTAL_STOP
GLOTTAL_STOP_WITH_STROKE LATERAL_CLICK PHARYNGEAL_VOICED_FRICATIVE RETROFLEX_CLICK REVERSED_ESH_LOOP
REVERSED_GLOTTAL_STOP_WITH_STROKE STRETCHED_C TWO_WITH_STROKE VOICED_LARYNGEAL_SPIRANT WYNN YR
LATIN_LETTER_INVERTED_GLOTTAL_: STOP STOP_WITH_STROKE LATIN_LETTER_SMALL_CAPITAL_: A AE B BARRED_B C
D E ETH EZH G G_WITH_HOOK H I INVERTED_R J K L L_WITH_STROKE M N O OE OPEN_O OU P R REVERSED_N
REVERSED_R T TURNED_R U V W Y Z LATIN_SMALL_CAPITAL_LETTER_: I_WITH_STROKE U_WITH_STROKE
LATIN_SMALL_LETTER_: A AE AE_WITH_ACUTE AE_WITH_MACRON ALPHA ALPHA_WITH_RETROFLEX_HOOK B BARRED_O
BOTTOM_HALF_O C CLOSED_OMEGA CLOSED_OPEN_E CLOSED_REVERSED_OPEN_E D DB_DIGRAPH DELTA DEZH_DIGRAPH DZ
DZ_DIGRAPH DZ_DIGRAPH_WITH_CURL DZ_WITH_CARON E ENG ESH ESH_WITH_CURL ESH_WITH_PALATAL_HOOK
ESH_WITH_RETROFLEX_HOOK ETH EZH EZH_REVERSED F F_WITH_DOT_ABOVE F_WITH_HOOK F_WITH_MIDDLE_TILDE
F_WITH_PALATAL_HOOK FENG_DIGRAPH G GAMMA GLOTTAL_STOP H HENG_WITH_HOOK HV I INSULAR_G IOTA
IOTA_WITH_STROKE J J_WITH_CARON J_WITH_CIRCUMFLEX J_WITH_CROSSED-TAIL J_WITH_STROKE K KRA L
LAMBDA_WITH_STROKE LEZH LJ LONG_S LS_DIGRAPH LZ_DIGRAPH M MIDDLE-WELSH_LL MIDDLE-WELSH_V N
N_PRECEDED_BY_APOSTROPHE NJ O OI OPEN_E OPEN_E_WITH_RETROFLEX_HOOK OPEN_O OPEN_O_WITH_RETROFLEX_HOOK
OU P PHI Q Q_WITH_HOOK Q_WITH_HOOK_TAIL QP_DIGRAPH R RAMS_HORN S SCHWA SCHWA_WITH_HOOK
SCHWA_WITH_RETROFLEX_HOOK SCRIPT_G SHARP_S SQUAT_REVERSED_ESH T TC_DIGRAPH_WITH_CURL TESH_DIGRAPH
TH_WITH_STRIKETHROUGH THORN TONE_FIVE TONE_SIX TONE_TWO TOP_HALF_O TS_DIGRAPH U U_BAR UE UPSILON
UPSILON_WITH_STROKE V V_WITH_DOT_BELOW V_WITH_HOOK V_WITH_PALATAL_HOOK V_WITH_TILDE W X
X_WITH_DIAERESIS X_WITH_DOT_ABOVE X_WITH_PALATAL_HOOK Y YOGH Z LATIN_SMALL_LETTER_A_WITH_: ACUTE
BREVE CARON CIRCUMFLEX DIAERESIS DIAERESIS_AND_MACRON DOT_ABOVE DOT_ABOVE_AND_MACRON DOT_BELOW
DOUBLE_GRAVE GRAVE HOOK_ABOVE INVERTED_BREVE MACRON OGONEK RETROFLEX_HOOK RIGHT_HALF_RING RING_ABOVE
RING_ABOVE_AND_ACUTE RING_BELOW TILDE LATIN_SMALL_LETTER_B_WITH_: DOT_ABOVE DOT_BELOW HOOK
LINE_BELOW MIDDLE_TILDE PALATAL_HOOK STROKE TOPBAR LATIN_SMALL_LETTER_C_WITH_: ACUTE CARON CEDILLA
CEDILLA_AND_ACUTE CIRCUMFLEX CURL DOT_ABOVE HOOK STROKE LATIN_SMALL_LETTER_D_WITH_: CARON CEDILLA
CIRCUMFLEX_BELOW CURL DOT_ABOVE DOT_BELOW HOOK HOOK_AND_TAIL LINE_BELOW MIDDLE_TILDE PALATAL_HOOK
STROKE TAIL TOPBAR LATIN_SMALL_LETTER_DOTLESS_: I J J_WITH_STROKE J_WITH_STROKE_AND_HOOK
LATIN_SMALL_LETTER_E_WITH_: ACUTE BREVE CARON CEDILLA CEDILLA_AND_BREVE CIRCUMFLEX CIRCUMFLEX_BELOW
DIAERESIS DOT_ABOVE DOT_BELOW DOUBLE_GRAVE GRAVE HOOK_ABOVE INVERTED_BREVE MACRON MACRON_AND_ACUTE
MACRON_AND_GRAVE OGONEK RETROFLEX_HOOK STROKE TILDE TILDE_BELOW LATIN_SMALL_LETTER_EZH_WITH_: CARON
CURL RETROFLEX_HOOK TAIL LATIN_SMALL_LETTER_G_WITH_: ACUTE BREVE CARON CEDILLA CIRCUMFLEX DOT_ABOVE
HOOK MACRON PALATAL_HOOK STROKE LATIN_SMALL_LETTER_H_WITH_: BREVE_BELOW CARON CEDILLA CIRCUMFLEX
DIAERESIS DOT_ABOVE DOT_BELOW HOOK LINE_BELOW STROKE LATIN_SMALL_LETTER_I_WITH_: ACUTE BREVE CARON
CIRCUMFLEX DIAERESIS DIAERESIS_AND_ACUTE DOT_BELOW DOUBLE_GRAVE GRAVE HOOK_ABOVE INVERTED_BREVE
MACRON OGONEK RETROFLEX_HOOK STROKE TILDE TILDE_BELOW LATIN_SMALL_LETTER_K_WITH_: ACUTE CARON
CEDILLA DOT_BELOW HOOK LINE_BELOW PALATAL_HOOK LATIN_SMALL_LETTER_L_WITH_: ACUTE BAR BELT CARON
CEDILLA CIRCUMFLEX_BELOW CURL DOT_BELOW DOT_BELOW_AND_MACRON LINE_BELOW MIDDLE_DOT MIDDLE_TILDE
PALATAL_HOOK RETROFLEX_HOOK STROKE LATIN_SMALL_LETTER_LONG_S_WITH_: DIAGONAL_STROKE DOT_ABOVE
HIGH_STROKE LATIN_SMALL_LETTER_M_WITH_: ACUTE DOT_ABOVE DOT_BELOW HOOK MIDDLE_TILDE PALATAL_HOOK
LATIN_SMALL_LETTER_N_WITH_: ACUTE CARON CEDILLA CIRCUMFLEX_BELOW CURL DOT_ABOVE DOT_BELOW GRAVE
LEFT_HOOK LINE_BELOW LONG_RIGHT_LEG MIDDLE_TILDE PALATAL_HOOK RETROFLEX_HOOK TILDE
LATIN_SMALL_LETTER_O_WITH_: ACUTE BREVE CARON CIRCUMFLEX DIAERESIS DIAERESIS_AND_MACRON DOT_ABOVE
DOT_ABOVE_AND_MACRON DOT_BELOW DOUBLE_ACUTE DOUBLE_GRAVE GRAVE HOOK_ABOVE HORN INVERTED_BREVE MACRON
MACRON_AND_ACUTE MACRON_AND_GRAVE OGONEK OGONEK_AND_MACRON STROKE STROKE_AND_ACUTE TILDE
TILDE_AND_ACUTE TILDE_AND_DIAERESIS TILDE_AND_MACRON LATIN_SMALL_LETTER_P_WITH_: ACUTE DOT_ABOVE
HOOK MIDDLE_TILDE PALATAL_HOOK STROKE LATIN_SMALL_LETTER_R_WITH_: ACUTE CARON CEDILLA DOT_ABOVE
DOT_BELOW DOT_BELOW_AND_MACRON DOUBLE_GRAVE FISHHOOK FISHHOOK_AND_MIDDLE_TILDE INVERTED_BREVE
LINE_BELOW LONG_LEG MIDDLE_TILDE PALATAL_HOOK STROKE TAIL LATIN_SMALL_LETTER_REVERSED_: E OPEN_E
OPEN_E_WITH_HOOK OPEN_E_WITH_RETROFLEX_HOOK R_WITH_FISHHOOK LATIN_SMALL_LETTER_S_WITH_: ACUTE
ACUTE_AND_DOT_ABOVE CARON CARON_AND_DOT_ABOVE CEDILLA CIRCUMFLEX COMMA_BELOW DOT_ABOVE DOT_BELOW
DOT_BELOW_AND_DOT_ABOVE HOOK MIDDLE_TILDE PALATAL_HOOK SWASH_TAIL LATIN_SMALL_LETTER_SIDEWAYS_:
DIAERESIZED_U O O_WITH_STROKE OPEN_O TURNED_M U LATIN_SMALL_LETTER_T_WITH_: CARON CEDILLA
CIRCUMFLEX_BELOW COMMA_BELOW CURL DIAERESIS DOT_ABOVE DOT_BELOW HOOK LINE_BELOW MIDDLE_TILDE
PALATAL_HOOK RETROFLEX_HOOK STROKE LATIN_SMALL_LETTER_TURNED_: A AE ALPHA DELTA E G H
H_WITH_FISHHOOK H_WITH_FISHHOOK_AND_TAIL I K M M_WITH_LONG_LEG OE OPEN_E R R_WITH_HOOK
R_WITH_LONG_LEG T V W Y LATIN_SMALL_LETTER_U_WITH_: ACUTE BREVE CARON CIRCUMFLEX CIRCUMFLEX_BELOW
DIAERESIS DIAERESIS_BELOW DOT_BELOW DOUBLE_ACUTE DOUBLE_GRAVE GRAVE HOOK_ABOVE HORN INVERTED_BREVE
MACRON MACRON_AND_DIAERESIS OGONEK RETROFLEX_HOOK RING_ABOVE TILDE TILDE_AND_ACUTE TILDE_BELOW
LATIN_SMALL_LETTER_W_WITH_: ACUTE CIRCUMFLEX DIAERESIS DOT_ABOVE DOT_BELOW GRAVE RING_ABOVE
LATIN_SMALL_LETTER_Y_WITH_: ACUTE CIRCUMFLEX DIAERESIS DOT_ABOVE DOT_BELOW GRAVE HOOK HOOK_ABOVE
LOOP MACRON RING_ABOVE STROKE TILDE LATIN_SMALL_LETTER_Z_WITH_: ACUTE CARON CIRCUMFLEX CURL
DOT_ABOVE DOT_BELOW HOOK LINE_BELOW MIDDLE_TILDE PALATAL_HOOK RETROFLEX_HOOK STROKE SWASH_TAIL
LATIN_SUBSCRIPT_SMALL_LETTER_: I R U V LEFT_: RIGHT_: CURLY_BRACKET PARENTHESIS SQUARE_BRACKET
LEFT-FACING_: RIGHT-FACING_: ARMENIAN_ETERNITY_SIGN SVASTI_SIGN SVASTI_SIGN_WITH_DOTS
LEPCHA_CONSONANT_SIGN_: K KANG L M N NYIN-DO P R T LEPCHA_LETTER_: A BA BLA CA CHA DA DDA DZA FA FLA
GA GLA HA HLA JA KA KHA KLA LA MA MLA NA NGA NYA PA PHA PLA RA SA SHA TA THA TSA TSHA TTA TTHA VA WA
YA LEPCHA_PUNCTUATION_: CER-WA NYET_THYOOM_TA-ROL TA-ROL TSHOOK TSHOOK_CER-WA LEPCHA_SIGN_: NUKTA
RAN LEPCHA_SUBJOINED_LETTER_: RA YA LEPCHA_VOWEL_SIGN_: AA E I O OO U UU LIMBU_: EXCLAMATION_MARK
QUESTION_MARK VOWEL-CARRIER_LETTER LIMBU_LETTER_: BA BHA CA CHA DA DHA GA GHA GYAN HA JA JHA KA KHA
LA MA NA NGA PA PHA RA SA SHA SSA TA THA TRA WA YA YAN LIMBU_SIGN_: KEMPHRENG LOO MUKPHRENG SA-I
LIMBU_SMALL_LETTER_: ANUSVARA KA LA MA NA NGA PA RA TA LIMBU_SUBJOINED_LETTER_: RA WA YA
LIMBU_VOWEL_SIGN_: A AI AU E EE I O OO U MALAYALAM_: AU_LENGTH_MARK DATE_MARK
MALAYALAM_FRACTION_ONE_: EIGHTH FIFTH FORTIETH HALF ONE-HUNDRED-AND-SIXTIETH QUARTER SIXTEENTH TENTH
TWENTIETH MALAYALAM_FRACTION_THREE_: EIGHTIETHS QUARTERS SIXTEENTHS TWENTIETHS MALAYALAM_LETTER_: A
AA AI ARCHAIC_II AU BA BHA CA CHA DA DDA DDHA DHA DOT_REPH E EE GA GHA HA I II JA JHA KA KHA LA LLA
LLLA MA NA NGA NNA NNNA NYA O OO PA PHA RA RRA SA SHA SSA TA THA TTA TTHA TTTA U UU VA
VEDIC_ANUSVARA YA MALAYALAM_LETTER_CHILLU_: K L LL LLL M N NN RR Y MALAYALAM_NUMBER_: ONE_HUNDRED
ONE_THOUSAND TEN MALAYALAM_SIGN_: ANUSVARA AVAGRAHA CANDRABINDU CIRCULAR_VIRAMA
COMBINING_ANUSVARA_ABOVE PARA VERTICAL_BAR_VIRAMA VIRAMA VISARGA MANDAIC_: AFFRICATION_MARK
GEMINATION_MARK PUNCTUATION VOCALIZATION_MARK MANDAIC_LETTER_: AB AD AG AH AIN AK AKSA AL AM AN AP
AQ AR AS ASH ASZ AT ATT AZ DUSHENNA HALQA IN IT KAD USHENNA MODIFIER_LETTER_: ACUTE_ACCENT
APOSTROPHE BEGIN_HIGH_TONE BEGIN_LOW_TONE CENTRED_LEFT_HALF_RING CENTRED_RIGHT_HALF_RING
CIRCUMFLEX_ACCENT CROSS_ACCENT CYRILLIC_EN DOUBLE_APOSTROPHE DOUBLE_PRIME DOWN_ARROWHEAD DOWN_TACK
END_HIGH_TONE END_LOW_TONE EXTRA-HIGH_TONE_BAR EXTRA-LOW_TONE_BAR GEORGIAN_NAR GLOTTAL_STOP
GRAVE_ACCENT HALF_TRIANGULAR_COLON HIGH_TONE_BAR LEFT_ARROWHEAD LEFT_HALF_RING MACRON MID_TONE_BAR
MIDDLE_DOUBLE_ACUTE_ACCENT MIDDLE_DOUBLE_GRAVE_ACCENT MIDDLE_GRAVE_ACCENT MINUS_SIGN OPEN_SHELF
PLUS_SIGN PRIME RAISED_COLON REVERSED_COMMA REVERSED_GLOTTAL_STOP RHOTIC_HOOK RIGHT_ARROWHEAD
RIGHT_HALF_RING SHELF TRIANGULAR_COLON TURNED_COMMA UNASPIRATED UP_ARROWHEAD UP_TACK VERTICAL_LINE
VOICING YANG_DEPARTING_TONE_MARK YIN_DEPARTING_TONE_MARK MODIFIER_LETTER_CAPITAL_: A AE B BARRED_B D
E G H I J K L M N O OU P R REVERSED_E REVERSED_N T U W MODIFIER_LETTER_LOW_: ACUTE_ACCENT
DOWN_ARROWHEAD GRAVE_ACCENT LEFT_ARROW LEFT_ARROWHEAD MACRON RIGHT_ARROWHEAD RING TILDE TONE_BAR
UP_ARROWHEAD VERTICAL_LINE MODIFIER_LETTER_SMALL_: A AIN ALPHA B BARRED_O BETA BOTTOM_HALF_O C
C_WITH_CURL CHI D DELTA DOTLESS_J_WITH_STROKE E ENG ESH ETH EZH F G GAMMA GREEK_GAMMA GREEK_PHI H
H_WITH_HOOK I_WITH_STROKE IOTA J J_WITH_CROSSED-TAIL K L L_WITH_PALATAL_HOOK L_WITH_RETROFLEX_HOOK M
M_WITH_HOOK N_WITH_LEFT_HOOK N_WITH_RETROFLEX_HOOK O OPEN_E OPEN_O P PHI R REVERSED_GLOTTAL_STOP
REVERSED_OPEN_E S S_WITH_HOOK SCHWA SCRIPT_G SIDEWAYS_U T T_WITH_PALATAL_HOOK THETA TOP_HALF_O U
U_BAR UPSILON V V_WITH_HOOK W X Y Z Z_WITH_CURL Z_WITH_RETROFLEX_HOOK
MODIFIER_LETTER_SMALL_CAPITAL_: I I_WITH_STROKE INVERTED_R L N U MODIFIER_LETTER_SMALL_TURNED_: A AE
ALPHA H I M M_WITH_LONG_LEG OPEN_E R R_WITH_HOOK V MONGOLIAN_: BIRGA COLON COMMA ELLIPSIS FOUR_DOTS
FULL_STOP MANCHU_COMMA MANCHU_FULL_STOP NIRUGU SIBE_SYLLABLE_BOUNDARY_MARKER TODO_SOFT_HYPHEN
VOWEL_SEPARATOR MONGOLIAN_FREE_VARIATION_SELECTOR_: FOUR ONE THREE TWO MONGOLIAN_LETTER_: A ANG BA
CHA CHA_WITH_TWO_DOTS CHI DA E EE FA GA HAA I JA KA KHA LA LHA MA NA O OE PA QA RA SA SHA TA TSA U
UE WA YA ZA ZHI ZRA MONGOLIAN_LETTER_ALI_GALI_: A AH ANUSVARA_ONE BALUDA CA DA DAGALGA DAMARU DDA
HALF_U HALF_YA I INVERTED_UBADAMA KA NGA NNA PA PHA SSA TA THREE_BALUDA TTA TTHA UBADAMA VISARGA_ONE
ZA ZHA MONGOLIAN_LETTER_MANCHU_: FA I KA RA ZHA MONGOLIAN_LETTER_MANCHU_ALI_GALI_: BHA CA CYA DDHA
DHA GHA JHA LHA NGA SSA TA TTA ZA ZHA MONGOLIAN_LETTER_SIBE_: ANG CHA DA E FA GA GAA HA HAA I IY JA
KA PA RAA SHA TA TSA U UE ZA ZHA MONGOLIAN_LETTER_TODO_: ALI_GALI_TA ALI_GALI_ZHA ANG BA CHA DA DZA
E GA GAA HAA I JA JIA KA LONG_VOWEL_SIGN MA NIA O OE PA QA TA TSA U UE WA YA
MYANMAR_CONSONANT_SIGN_: MEDIAL_HA MEDIAL_RA MEDIAL_WA MEDIAL_YA MON_MEDIAL_LA MON_MEDIAL_MA
MON_MEDIAL_NA SHAN_MEDIAL_WA MYANMAR_LETTER_: A AU BA BHA CA CHA DA DDA DDHA DHA E GA GHA GREAT_SA
HA I II JA JHA KA KHA LA LLA MA MON_BBA MON_BBE MON_E MON_JHA MON_NGA NA NGA NNA NNYA NYA O PA PHA
RA RUMAI_PALAUNG_FA SA SGAW_KAREN_SHA SHA SSA TA THA TTA TTHA U UU WA YA
MYANMAR_LETTER_EASTERN_PWO_KAREN_: GHWA NNA YWA MYANMAR_LETTER_SHAN_: A BA CA DA FA GA HA KA KHA NA
NYA PHA THA ZA MYANMAR_LETTER_WESTERN_PWO_KAREN_: PWA THA MYANMAR_SIGN_: ANUSVARA ASAT DOT_BELOW
KHAMTI_TONE-1 KHAMTI_TONE-3 LITTLE_SECTION RUMAI_PALAUNG_TONE-5 SECTION VIRAMA VISARGA
MYANMAR_SIGN_SHAN_COUNCIL_: EMPHATIC_TONE TONE-2 TONE-3 MYANMAR_SIGN_SHAN_TONE-: 2 3 5 6
MYANMAR_SIGN_WESTERN_PWO_KAREN_TONE-: 1 2 3 4 5 MYANMAR_SYMBOL_: AFOREMENTIONED COMPLETED GENITIVE
LOCATIVE SHAN_EXCLAMATION SHAN_ONE MYANMAR_TONE_MARK_SGAW_KAREN_: HATHI KE_PHO MYANMAR_VOWEL_SIGN_:
AA AI AITON_A AITON_AI E E_ABOVE GEBA_KAREN_I I II KAYAH_EE KAYAH_OE KAYAH_U MON_II MON_O
SGAW_KAREN_EU SHAN_AA SHAN_E SHAN_E_ABOVE SHAN_FINAL_Y TALL_AA U UU WESTERN_PWO_KAREN_EU
WESTERN_PWO_KAREN_UE NEW_TAI_LUE_: SIGN_LAE SIGN_LAEV THAM_DIGIT_ONE TONE_MARK-1 TONE_MARK-2
NEW_TAI_LUE_LETTER_FINAL_: B D K M N NG V NEW_TAI_LUE_LETTER_HIGH_: NEW_TAI_LUE_LETTER_LOW_: BA DA
FA HA KA KVA LA MA NA NGA PA PHA QA SA SUA TA THA TSA VA XA XVA YA NEW_TAI_LUE_VOWEL_SIGN_: AA AAY
AE AY E II IY O OA OAY OY U UE UEY UU UY VOWEL_SHORTENER NKO_: COMMA DANTAYALAN DOROME_SIGN
EXCLAMATION_MARK HIGH_TONE_APOSTROPHE LAJANYALAN LOW_TONE_APOSTROPHE TAMAN_SIGN NKO_COMBINING_:
DOUBLE_DOT_ABOVE LONG_DESCENDING_TONE LONG_HIGH_TONE LONG_LOW_TONE LONG_RISING_TONE
NASALIZATION_MARK SHORT_HIGH_TONE SHORT_LOW_TONE SHORT_RISING_TONE NKO_LETTER_: A BA CHA DA
DAGBASINNA E EE FA GBA HA I JA JONA_CHA JONA_JA JONA_RA KA LA MA N NA NA_WOLOSO NYA NYA_WOLOSO O OO
PA RA RRA SA TA U WA YA NKO_SYMBOL_: GBAKURUNEN OO_DENNEN OGHAM_: FEATHER_MARK REVERSED_FEATHER_MARK
SPACE_MARK OGHAM_LETTER_: AILM BEITH CEIRT COLL DAIR EABHADH EADHADH EAMHANCHOLL FEARN GORT IFIN
IODHADH LUIS MUIN NGEADAL NION ONN OR PEITH RUIS SAIL STRAIF TINNE UATH UILLEANN UR OL_CHIKI_: AHAD
GAAHLAA_TTUDDAAG MU_TTUDDAG MU-GAAHLAA_TTUDDAAG PHAARKAA RELAA OL_CHIKI_LETTER_: AAJ AAK AAM AAW AG
AL ANG AT EDD EN EP ERR IH INY IR IS LA LAA LE LI LO LU OB OH OTT OV UC UD UNN UY
OL_CHIKI_PUNCTUATION_: DOUBLE_MUCAAD MUCAAD ORIYA_: AI_LENGTH_MARK AU_LENGTH_MARK ISSHAR
ORIYA_FRACTION_ONE_: EIGHTH HALF QUARTER SIXTEENTH ORIYA_FRACTION_THREE_: QUARTERS SIXTEENTHS
ORIYA_LETTER_: A AA AI AU BA BHA CA CHA DA DDA DDHA DHA E GA GHA HA I II JA JHA KA KHA LA LLA MA NA
NGA NNA NYA O PA PHA RA RHA RRA SA SHA SSA TA THA TTA TTHA U UU VA WA YA YYA ORIYA_SIGN_: ANUSVARA
AVAGRAHA CANDRABINDU NUKTA OVERLINE VIRAMA VISARGA PHILIPPINE_: DOUBLE_PUNCTUATION
SINGLE_PUNCTUATION RUNIC_: ARLAUG_SYMBOL BELGTHOR_SYMBOL CROSS_PUNCTUATION MULTIPLE_PUNCTUATION
SINGLE_PUNCTUATION TVIMADUR_SYMBOL RUNIC_LETTER_: AC_A AESC ALGIZ_EOLHX ANSUZ_A
BERKANAN_BEORC_BJARKAN_B C CALC CEALC CEN CWEORTH D DAGAZ_DAEG_D DOTTED-L DOTTED-N DOTTED-P E EAR
EHWAZ_EH_E ENG ETH FEHU_FEOH_FE_F G GAR GEBO_GYFU_G GER HAEGL_H HAGLAZ_H ICELANDIC-YR ING INGWAZ IOR
ISAZ_IS_ISS_I IWAZ_EOH JERAN_J K KAUN_K KAUNA LAUKAZ_LAGU_LOGR_L MANNAZ_MAN_M NAUDIZ_NYD_NAUD_N O OE
ON OO OPEN-P OS_O OTHALAN_ETHEL_O PERTHO_PEORTH_P Q RAIDO_RAD_REID_R SH SIGEL_LONG-BRANCH-SOL_S
SOWILO_S STAN THURISAZ_THURS_THORN TIWAZ_TIR_TYR_T URUZ_UR_U V W WUNJO_WYNN_W X Y YR Z
RUNIC_LETTER_FRANKS_CASKET_: AC AESC EH IS OS RUNIC_LETTER_LONG-BRANCH-: AR_AE HAGALL_H MADR_M OSS_O
YR RUNIC_LETTER_SHORT-TWIG-: AR_A BJARKAN_B HAGALL_H MADR_M NAUD_N OSS_O SOL_S TYR_T YR
SAMARITAN_LETTER_: ALAF BAA BIT DALAT FI GAMAN IN IT IY KAAF LABAT MIM NUN QUF RISH SHAN SINGAAT
TAAF TIT TSAADIY YUT ZEN SAMARITAN_MARK_: DAGESH EPENTHETIC_YUT IN IN-ALAF NEQUDAA OCCLUSION
SAMARITAN_MODIFIER_LETTER_: EPENTHETIC_YUT I SHORT_A SAMARITAN_PUNCTUATION_: AFSAAQ ANGED ANNAAU
ARKAANU ATMAAU BAU MELODIC_QITSA NEQUDAA QITSA SHIYYAALAA SOF_MASHFAAT TURU ZAEF ZIQAA
SAMARITAN_VOWEL_SIGN_: A AA E I LONG_A LONG_AA LONG_E LONG_I LONG_U O OVERLONG_A OVERLONG_AA SHORT_A
SUKUN U SINHALA_LETTER_: AAYANNA AEEYANNA AEYANNA AIYANNA AMBA_BAYANNA AUYANNA AYANNA
DANTAJA_LAYANNA DANTAJA_NAYANNA DANTAJA_SAYANNA EEYANNA EYANNA FAYANNA HAYANNA IIYANNA ILUUYANNA
ILUYANNA IRUUYANNA IRUYANNA IYANNA KANTAJA_NAASIKYAYA MAYANNA OOYANNA OYANNA RAYANNA
TAALUJA_NAASIKYAYA TAALUJA_SANYOOGA_NAAKSIKYAYA TAALUJA_SAYANNA UUYANNA UYANNA VAYANNA YAYANNA
SINHALA_LETTER_ALPAPRAANA_: SINHALA_LETTER_MAHAAPRAANA_: BAYANNA CAYANNA DAYANNA DDAYANNA GAYANNA
JAYANNA KAYANNA PAYANNA TAYANNA TTAYANNA SINHALA_LETTER_MUURDHAJA_: LAYANNA NAYANNA SAYANNA
SINHALA_LETTER_SANYAKA_: DAYANNA DDAYANNA GAYANNA JAYANNA SINHALA_SIGN_: AL-LAKUNA ANUSVARAYA
CANDRABINDU VISARGAYA SINHALA_VOWEL_SIGN_: AELA-PILLA GAETTA-PILLA GAYANUKITTA KETTI_AEDA-PILLA
KETTI_IS-PILLA KETTI_PAA-PILLA KOMBU_DEKA KOMBUVA SINHALA_VOWEL_SIGN_DIGA_: AEDA-PILLA GAETTA-PILLA
GAYANUKITTA IS-PILLA KOMBUVA PAA-PILLA SINHALA_VOWEL_SIGN_KOMBUVA_HAA_: AELA-PILLA DIGA_AELA-PILLA
GAYANUKITTA SUNDANESE_CONSONANT_SIGN_: PAMINGKAL PANYAKRA PANYIKU PASANGAN_MA PASANGAN_WA
SUNDANESE_LETTER_: A AE BA BHA CA DA E EU FA FINAL_K FINAL_M GA HA I JA KA KHA LA LEU MA NA NGA NYA
O PA QA RA REU SA SYA TA U VA WA XA YA ZA SUNDANESE_PUNCTUATION_BINDU_: BA_SATANGA CAKRA DA_SATANGA
KA_SATANGA LEU_SATANGA PANGLONG PURNAMA SURYA SUNDANESE_SIGN_: PAMAAEH PANGLAYAR PANGWISAD PANYECEK
VIRAMA SUNDANESE_VOWEL_SIGN_: PAMEPET PANAELAENG PANEULEUNG PANGHULU PANOLONG PANYUKU SUPERSCRIPT_:
ONE THREE TWO SYRIAC_: ABBREVIATION_MARK BARREKH CONTRACTION END_OF_PARAGRAPH ESASA_ABOVE
ESASA_BELOW FEMININE_DOT HBASA_ABOVE HBASA_BELOW HBASA-ESASA_DOTTED HORIZONTAL_COLON MUSIC QUSHSHAYA
RBASA_ABOVE RBASA_BELOW RUKKAKHA RWAHA SYRIAC_DOTTED_ZLAMA_: ANGULAR HORIZONTAL SYRIAC_HARKLEAN_:
ASTERISCUS METOBELUS OBELUS SYRIAC_LETTER_: ALAPH BETH DALATH DOTLESS_DALATH_RISH E FINAL_SEMKATH
GAMAL GAMAL_GARSHUNI HE HETH KAPH LAMADH MIM NUN PE PERSIAN_BHETH PERSIAN_DHALATH PERSIAN_GHAMAL
QAPH REVERSED_PE RISH SADHE SEMKATH SHIN SOGDIAN_FE SOGDIAN_KHAPH SOGDIAN_ZHAIN SUPERSCRIPT_ALAPH
TAW TETH TETH_GARSHUNI WAW YUDH YUDH_HE ZAIN SYRIAC_LETTER_MALAYALAM_: BHA JA LLA LLLA NGA NNA NNNA
NYA RA SSA TTA SYRIAC_PTHAHA_: SYRIAC_ZQAPHA_: ABOVE BELOW DOTTED SYRIAC_SUBLINEAR_: COLON
COLON_SKEWED_RIGHT FULL_STOP SYRIAC_SUPRALINEAR_: COLON COLON_SKEWED_LEFT FULL_STOP TAGALOG_LETTER_:
A ARCHAIC_RA BA DA GA HA I KA LA MA NA NGA PA RA SA TA U WA YA TAGALOG_SIGN_: PAMUDPOD VIRAMA
TAGBANWA_LETTER_: A BA DA GA I KA LA MA NA NGA PA SA TA U WA YA TAI_LE_LETTER_: A AI AUE E EE EH FA
HA I KA KHA LA MA NA NGA O OO PA PHA QA SA TA THA TSA TSHA U UE VA XA YA TAI_LE_LETTER_TONE-: 2 3 4
5 6 TAI_THAM_CONSONANT_SIGN_: BA FINAL_NGA HIGH_RATHA_OR_LOW_PA LA_TANG_LAI LOW_PA MA MEDIAL_LA
MEDIAL_RA SA TAI_THAM_LETTER_: A BA DA EE GREAT_SA I II LA LAE LLA LUE MA NA NGA NYA OO RA RANA RATA
RUE U UU WA TAI_THAM_LETTER_HIGH_: CA CHA FA HA KA KHA KXA PA PHA RATHA SA SHA SSA TA THA YA
TAI_THAM_LETTER_LOW_: CA CHA FA HA KA KHA KXA PA PHA RATHA SA TA THA YA TAI_THAM_SIGN_: CAANG DOKMAI
HANG HOY KAAN KAANKUU KEOW KHUEN-LUE_KARAN MAI_KANG MAI_KANG_LAI MAI_SAM MAI_YAMOK RA_HAAM
REVERSED_ROTATED_RANA SAKOT SATKAAN SATKAANKUU SAWAN TONE-1 TONE-2 WIANG WIANGWAAK
TAI_THAM_SIGN_KHUEN_TONE-: 3 4 5 TAI_THAM_VOWEL_SIGN_: A AA AE AI E I II MAI_SAT O OA_ABOVE OA_BELOW
OO OY TALL_AA THAM_AI U UE UU UUE TAMIL_: AS_ABOVE_SIGN AU_LENGTH_MARK CREDIT_SIGN DAY_SIGN
DEBIT_SIGN MONTH_SIGN OM RUPEE_SIGN YEAR_SIGN TAMIL_LETTER_: A AA AI AU CA E EE HA I II JA KA LA LLA
LLLA MA NA NGA NNA NNNA NYA O OO PA RA RRA SA SHA SSA TA TTA U UU VA YA TAMIL_NUMBER_: ONE_HUNDRED
ONE_THOUSAND SIGN TEN TAMIL_SIGN_: ANUSVARA VIRAMA VISARGA TELUGU_FRACTION_DIGIT_:
ONE_FOR_EVEN_POWERS_OF_FOUR ONE_FOR_ODD_POWERS_OF_FOUR THREE_FOR_EVEN_POWERS_OF_FOUR
THREE_FOR_ODD_POWERS_OF_FOUR TWO_FOR_EVEN_POWERS_OF_FOUR TWO_FOR_ODD_POWERS_OF_FOUR
ZERO_FOR_ODD_POWERS_OF_FOUR TELUGU_LETTER_: A AA AI AU BA BHA CA CHA DA DDA DDHA DHA DZA E EE GA GHA
HA I II JA JHA KA KHA LA LLA LLLA MA NA NAKAARA_POLLU NGA NNA NYA O OO PA PHA RA RRA RRRA SA SHA SSA
TA THA TSA TTA TTHA U UU VA YA TELUGU_SIGN_: ANUSVARA AVAGRAHA CANDRABINDU COMBINING_ANUSVARA_ABOVE
COMBINING_CANDRABINDU_ABOVE NUKTA SIDDHAM TUUMU VIRAMA VISARGA THAANA_: AABAAFILI ABAFILI EBEFILI
EEBEEFILI EYBEYFILI IBIFILI OABOAFILI OBOFILI OOBOOFILI SUKUN UBUFILI THAANA_LETTER_: AINU ALIFU BAA
CHAVIYANI DAADHU DAVIYANI DHAALU FAAFU GAAFU GHAINU GNAVIYANI HAA HHAA JAVIYANI KAAFU KHAA LAAMU
LHAVIYANI MEEMU NAA NOONU PAVIYANI QAAFU RAA SAADHU SEENU SHAVIYANI SHEENU TAVIYANI THAA THAALU TO
TTAA VAAVU WAAVU YAA ZAA ZAVIYANI ZO THAI_CHARACTER_: ANGKHANKHU BO_BAIMAI CHO_CHAN CHO_CHANG
CHO_CHING CHO_CHOE DO_CHADA DO_DEK FO_FA FO_FAN FONGMAN HO_HIP HO_NOKHUK KHO_KHAI KHO_KHON KHO_KHUAT
KHO_KHWAI KHO_RAKHANG KHOMUT KO_KAI LAKKHANGYAO LO_CHULA LO_LING LU MAI_CHATTAWA MAI_EK MAI_HAN-AKAT
MAI_THO MAI_TRI MAITAIKHU MAIYAMOK MO_MA NGO_NGU NIKHAHIT NO_NEN NO_NU O_ANG PAIYANNOI PHINTHU
PHO_PHAN PHO_PHUNG PHO_SAMPHAO PO_PLA RO_RUA RU SO_RUSI SO_SALA SO_SO SO_SUA THANTHAKHAT TO_PATAK
TO_TAO WO_WAEN YAMAKKAN YO_YAK YO_YING THAI_CHARACTER_SARA_: A AA AE AI_MAIMALAI AI_MAIMUAN AM E I
II O U UE UEE UU THAI_CHARACTER_THO_: NANGMONTHO PHUTHAO THAHAN THAN THONG THUNG TIBETAN_: KU_RU_KHA
KU_RU_KHA_BZHI_MIG_CAN LETTER_-A SUBJOINED_LETTER_-A SYLLABLE_OM TIBETAN_ASTROLOGICAL_:
SIGN_-KHYUD_PA SIGN_SDONG_TSHUGS SIGN_SGRA_GCAN_-CHAR_RTAGS TIBETAN_CANTILLATION_SIGN_: CANG_TE-U
HEAVY_BEAT LIGHT_BEAT SBUB_-CHAL TIBETAN_LETTER_: A BA BHA CA CHA DA DDA DDHA DHA DZA DZHA
FIXED-FORM_RA GA GHA HA JA KA KHA KKA KSSA LA MA NA NGA NNA NYA PA PHA RA RRA SA SHA SSA TA THA TSA
TSHA TTA TTHA WA YA ZA ZHA TIBETAN_LOGOTYPE_SIGN_: CHAD_RTAGS LHAG_RTAGS TIBETAN_MARK_:
ANG_KHANG_GYAS ANG_KHANG_GYON BKA-_SHOG_YIG_MGO BSDUS_RTAGS BSKA-_SHOG_GI_MGO_RGYAN BSKUR_YIG_MGO
CARET_YIG_MGO_PHUR_SHAD_MA CHE_MGO CLOSING_BRDA_RNYING_YIG_MGO_SGAB_MA CLOSING_YIG_MGO_SGAB_MA
DELIMITER_TSHEG_BSTAR GTER_TSHEG GUG_RTAGS_GYAS GUG_RTAGS_GYON HALANTA
INITIAL_BRDA_RNYING_YIG_MGO_MDUN_MA INITIAL_YIG_MGO_MDUN_MA INTERSYLLABIC_TSHEG LEADING_MCHAN_RTAGS
MNYAM_YIG_GI_MGO_RGYAN NGAS_BZUNG_NYI_ZLA NGAS_BZUNG_SGOR_RTAGS NYIS_SHAD NYIS_TSHEG NYIS_TSHEG_SHAD
PALUTA RGYA_GRAM_SHAD RIN_CHEN_SPUNGS_SHAD SBRUL_SHAD SHAD TRAILING_MCHAN_RTAGS TSA_-PHRU TSHEG_SHAD
YIG_MGO_TSHEG_SHAD_MA TIBETAN_MARK_CARET_-DZUD_RTAGS_: BZHI_MIG_CAN ME_LONG_CAN
TIBETAN_MARK_GTER_YIG_: MGO_-UM_GTER_TSHEG_MA MGO_-UM_RNAM_BCAD_MA MGO_TRUNCATED_A TIBETAN_SIGN_:
GRU_CAN_RGYINGS GRU_MED_RGYINGS INVERTED_MCHU_CAN LCE_TSA_CAN LCI_RTAGS MAR_TSHES MCHU_CAN
NYI_ZLA_NAA_DA RJES_SU_NGA_RO RNAM_BCAD SNA_LDAN YANG_RTAGS YAR_TSHES TIBETAN_SIGN_RDEL_DKAR_: GCIG
GNYIS GSUM RDEL_NAG TIBETAN_SIGN_RDEL_NAG_: GCIG GNYIS GSUM RDEL_DKAR TIBETAN_SUBJOINED_LETTER_: A
BA BHA CA CHA DA DDA DDHA DHA DZA DZHA FIXED-FORM_RA FIXED-FORM_WA FIXED-FORM_YA GA GHA HA JA KA KHA
KSSA LA MA NA NGA NNA NYA PA PHA RA SA SHA SSA TA THA TSA TSHA TTA TTHA WA YA ZA ZHA
TIBETAN_SUBJOINED_SIGN_: INVERTED_MCHU_CAN LCE_TSA_CAN MCHU_CAN TIBETAN_SYMBOL_: DRIL_BU NOR_BU
NOR_BU_BZHI_-KHYIL NOR_BU_GSUM_-KHYIL NOR_BU_NYIS_-KHYIL PADMA_GDAN PHUR_PA RDO_RJE
RDO_RJE_RGYA_GRAM TIBETAN_VOWEL_SIGN_: AA E EE I II O OO REVERSED_I REVERSED_II U UU VEDIC_SIGN_:
ARDHAVISARGA ATIKRAMA DOUBLE_ANUSVARA_ANTARGOMUKHA HEXIFORM_LONG_ANUSVARA JIHVAMULIYA LONG_ANUSVARA
NIHSHVASA ROTATED_ARDHAVISARGA RTHANG_LONG_ANUSVARA TIRYAK UPADHMANIYA YAJURVEDIC_MIDLINE_SVARITA
VEDIC_SIGN_ANUSVARA_: ANTARGOMUKHA BAHIRGOMUKHA UBHAYATO_MUKHA VAMAGOMUKHA VAMAGOMUKHA_WITH_TAIL
VEDIC_SIGN_REVERSED_VISARGA_: ANUDATTA UDATTA VEDIC_SIGN_VISARGA_: ANUDATTA ANUDATTA_WITH_TAIL
SVARITA UDATTA UDATTA_WITH_TAIL VEDIC_TONE_: ATHARVAVEDIC_INDEPENDENT_SVARITA CANDRA_ABOVE
CANDRA_BELOW DOT_BELOW DOUBLE_RING_ABOVE DOUBLE_SVARITA KARSHANA KATHAKA_ANUDATTA PRENKHA
RIGVEDIC_KASHMIRI_INDEPENDENT_SVARITA RING_ABOVE SHARA THREE_DOTS_BELOW TRIPLE_SVARITA
TWO_DOTS_BELOW VEDIC_TONE_YAJURVEDIC_: AGGRAVATED_INDEPENDENT_SVARITA INDEPENDENT_SVARITA
KATHAKA_INDEPENDENT_SVARITA KATHAKA_INDEPENDENT_SVARITA_SCHROEDER VULGAR_FRACTION_: ONE_HALF
ONE_QUARTER THREE_QUARTERS
"

end Sabotage.Text.CharacterName

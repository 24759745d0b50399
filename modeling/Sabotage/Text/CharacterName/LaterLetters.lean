/-!
# Letters added later, and forms

Scripts beyond the East Asian ones, and the forms in which letters are presented.
-/

namespace Sabotage.Text.CharacterName

/-- The listing of these names. -/
def laterLetterNames : String := "
: DOUBLE_WAVY_OVERLINE GREEK_LETTER_SMALL_CAPITAL_OMEGA HEBREW_POINT_JUDEO-SPANISH_VARIKA
LATIN_LETTER_SINOLOGICAL_DOT MODIFIER_BREVE_WITH_INVERTED_BREVE OBJECT_REPLACEMENT_CHARACTER
REPLACEMENT_CHARACTER RIAL_SIGN SESAME_DOT SLAVONIC_ASTERISK WHITE_SESAME_DOT
ZERO_WIDTH_NO-BREAK_SPACE ARABIC_: DAMMA_ISOLATED_FORM DAMMA_MEDIAL_FORM DAMMATAN_ISOLATED_FORM
FATHA_ISOLATED_FORM FATHA_MEDIAL_FORM FATHATAN_ISOLATED_FORM KASRA_ISOLATED_FORM KASRA_MEDIAL_FORM
KASRATAN_ISOLATED_FORM SHADDA_ISOLATED_FORM SHADDA_MEDIAL_FORM SUKUN_ISOLATED_FORM SUKUN_MEDIAL_FORM
TAIL_FRAGMENT TATWEEL_WITH_FATHATAN_ABOVE ARABIC_LETTER_: AIN_FINAL_FORM AIN_INITIAL_FORM
AIN_ISOLATED_FORM AIN_MEDIAL_FORM BEEH_FINAL_FORM BEEH_INITIAL_FORM BEEH_ISOLATED_FORM
BEEH_MEDIAL_FORM BEH_FINAL_FORM BEH_INITIAL_FORM BEH_ISOLATED_FORM BEH_MEDIAL_FORM DAD_FINAL_FORM
DAD_INITIAL_FORM DAD_ISOLATED_FORM DAD_MEDIAL_FORM DAHAL_FINAL_FORM DAHAL_ISOLATED_FORM
DAL_FINAL_FORM DAL_ISOLATED_FORM DDAHAL_FINAL_FORM DDAHAL_ISOLATED_FORM DDAL_FINAL_FORM
DDAL_ISOLATED_FORM DUL_FINAL_FORM DUL_ISOLATED_FORM DYEH_FINAL_FORM DYEH_INITIAL_FORM
DYEH_ISOLATED_FORM DYEH_MEDIAL_FORM E_FINAL_FORM E_INITIAL_FORM E_ISOLATED_FORM E_MEDIAL_FORM
FEH_FINAL_FORM FEH_INITIAL_FORM FEH_ISOLATED_FORM FEH_MEDIAL_FORM GAF_FINAL_FORM GAF_INITIAL_FORM
GAF_ISOLATED_FORM GAF_MEDIAL_FORM GUEH_FINAL_FORM GUEH_INITIAL_FORM GUEH_ISOLATED_FORM
GUEH_MEDIAL_FORM HAH_FINAL_FORM HAH_INITIAL_FORM HAH_ISOLATED_FORM HAH_MEDIAL_FORM
HAMZA_ISOLATED_FORM JEEM_FINAL_FORM JEEM_INITIAL_FORM JEEM_ISOLATED_FORM JEEM_MEDIAL_FORM
JEH_FINAL_FORM JEH_ISOLATED_FORM KAF_FINAL_FORM KAF_INITIAL_FORM KAF_ISOLATED_FORM KAF_MEDIAL_FORM
KHAH_FINAL_FORM KHAH_INITIAL_FORM KHAH_ISOLATED_FORM KHAH_MEDIAL_FORM LAM_FINAL_FORM
LAM_INITIAL_FORM LAM_ISOLATED_FORM LAM_MEDIAL_FORM MEEM_FINAL_FORM MEEM_INITIAL_FORM
MEEM_ISOLATED_FORM MEEM_MEDIAL_FORM NG_FINAL_FORM NG_INITIAL_FORM NG_ISOLATED_FORM NG_MEDIAL_FORM
NYEH_FINAL_FORM NYEH_INITIAL_FORM NYEH_ISOLATED_FORM NYEH_MEDIAL_FORM OE_FINAL_FORM OE_ISOLATED_FORM
PEH_FINAL_FORM PEH_INITIAL_FORM PEH_ISOLATED_FORM PEH_MEDIAL_FORM QAF_FINAL_FORM QAF_INITIAL_FORM
QAF_ISOLATED_FORM QAF_MEDIAL_FORM REH_FINAL_FORM REH_ISOLATED_FORM RREH_FINAL_FORM
RREH_ISOLATED_FORM SAD_FINAL_FORM SAD_INITIAL_FORM SAD_ISOLATED_FORM SAD_MEDIAL_FORM SEEN_FINAL_FORM
SEEN_INITIAL_FORM SEEN_ISOLATED_FORM SEEN_MEDIAL_FORM TAH_FINAL_FORM TAH_INITIAL_FORM
TAH_ISOLATED_FORM TAH_MEDIAL_FORM THAL_FINAL_FORM THAL_ISOLATED_FORM THEH_FINAL_FORM
THEH_INITIAL_FORM THEH_ISOLATED_FORM THEH_MEDIAL_FORM TTEH_FINAL_FORM TTEH_INITIAL_FORM
TTEH_ISOLATED_FORM TTEH_MEDIAL_FORM U_FINAL_FORM U_ISOLATED_FORM U_WITH_HAMZA_ABOVE_ISOLATED_FORM
VE_FINAL_FORM VE_ISOLATED_FORM VEH_FINAL_FORM VEH_INITIAL_FORM VEH_ISOLATED_FORM VEH_MEDIAL_FORM
WAW_FINAL_FORM WAW_ISOLATED_FORM YEH_FINAL_FORM YEH_INITIAL_FORM YEH_ISOLATED_FORM YEH_MEDIAL_FORM
YU_FINAL_FORM YU_ISOLATED_FORM ZAH_FINAL_FORM ZAH_INITIAL_FORM ZAH_ISOLATED_FORM ZAH_MEDIAL_FORM
ZAIN_FINAL_FORM ZAIN_ISOLATED_FORM ARABIC_LETTER_ALEF_: FINAL_FORM ISOLATED_FORM MAKSURA_FINAL_FORM
MAKSURA_ISOLATED_FORM WASLA_FINAL_FORM WASLA_ISOLATED_FORM WITH_MADDA_ABOVE_FINAL_FORM
WITH_MADDA_ABOVE_ISOLATED_FORM ARABIC_LETTER_ALEF_WITH_HAMZA_: ABOVE_FINAL_FORM ABOVE_ISOLATED_FORM
BELOW_FINAL_FORM BELOW_ISOLATED_FORM ARABIC_LETTER_BEHEH_: ARABIC_LETTER_FARSI_YEH_:
ARABIC_LETTER_GHAIN_: ARABIC_LETTER_HEH_DOACHASHMEE_: ARABIC_LETTER_KEHEH_: ARABIC_LETTER_NGOEH_:
ARABIC_LETTER_PEHEH_: ARABIC_LETTER_RNOON_: ARABIC_LETTER_SHEEN_: ARABIC_LETTER_TCHEH_:
ARABIC_LETTER_TCHEHEH_: ARABIC_LETTER_TEHEH_: ARABIC_LETTER_TTEHEH_:
ARABIC_LETTER_YEH_WITH_HAMZA_ABOVE_: FINAL_FORM INITIAL_FORM ISOLATED_FORM MEDIAL_FORM
ARABIC_LETTER_HEH_: FINAL_FORM GOAL_FINAL_FORM GOAL_INITIAL_FORM GOAL_ISOLATED_FORM GOAL_MEDIAL_FORM
INITIAL_FORM ISOLATED_FORM MEDIAL_FORM WITH_YEH_ABOVE_FINAL_FORM WITH_YEH_ABOVE_ISOLATED_FORM
ARABIC_LETTER_KIRGHIZ_: OE_FINAL_FORM OE_ISOLATED_FORM YU_FINAL_FORM YU_ISOLATED_FORM
ARABIC_LETTER_NOON_: FINAL_FORM GHUNNA_FINAL_FORM GHUNNA_ISOLATED_FORM INITIAL_FORM ISOLATED_FORM
MEDIAL_FORM ARABIC_LETTER_TEH_: FINAL_FORM INITIAL_FORM ISOLATED_FORM MARBUTA_FINAL_FORM
MARBUTA_ISOLATED_FORM MEDIAL_FORM ARABIC_LETTER_UIGHUR_KAZAKH_KIRGHIZ_ALEF_MAKSURA_: INITIAL_FORM
MEDIAL_FORM ARABIC_LETTER_WAW_WITH_HAMZA_ABOVE_:
ARABIC_LIGATURE_ALEF_MAKSURA_WITH_SUPERSCRIPT_ALEF_: ARABIC_LIGATURE_ALEF_WITH_FATHATAN_: FINAL_FORM
ISOLATED_FORM ARABIC_LETTER_YEH_BARREE_: FINAL_FORM ISOLATED_FORM WITH_HAMZA_ABOVE_FINAL_FORM
WITH_HAMZA_ABOVE_ISOLATED_FORM ARABIC_LIGATURE_: AKBAR_ISOLATED_FORM ALAYHAA_AS-SALAAM
ALAYHE_ISOLATED_FORM ALAYHI_AS-SALAAM ALAYHI_AS-SALAATU_WAS-SALAAM ALAYHIM_AS-SALAAM
ALAYHIMAA_AS-SALAAM ALLAH_ISOLATED_FORM AZZA_WA_JALL BISMILLAH_AR-RAHMAN_AR-RAHEEM JALLAJALALOUHOU
MOHAMMAD_ISOLATED_FORM QALA_USED_AS_KORANIC_STOP_SIGN_ISOLATED_FORM QUDDISA_SIRRAH RAHIMAHU_ALLAAH
RAHIMAHUM_ALLAAH RASOUL_ISOLATED_FORM REH_WITH_SUPERSCRIPT_ALEF_ISOLATED_FORM SALAAMUHU_ALAYNAA
SALAM_ISOLATED_FORM SALLA_ISOLATED_FORM SALLA_USED_AS_KORANIC_STOP_SIGN_ISOLATED_FORM
SALLALLAAHU_ALAYHI_WA-AALIH SALLALLAHOU_ALAYHE_WASALLAM SALLALLAHU_ALAYHI_WAAALIHEE_WA-SALLAM
SUBHAANAHU_WA_TAAALAA TABAARAKA_WA-TAAALAA THAL_WITH_SUPERSCRIPT_ALEF_ISOLATED_FORM
WASALLAM_ISOLATED_FORM ARABIC_LIGATURE_AIN_WITH_: ALEF_MAKSURA_FINAL_FORM ALEF_MAKSURA_ISOLATED_FORM
JEEM_INITIAL_FORM JEEM_ISOLATED_FORM JEEM_WITH_MEEM_FINAL_FORM JEEM_WITH_MEEM_INITIAL_FORM
MEEM_INITIAL_FORM MEEM_ISOLATED_FORM YEH_FINAL_FORM YEH_ISOLATED_FORM
ARABIC_LIGATURE_AIN_WITH_MEEM_WITH_: ALEF_MAKSURA_FINAL_FORM MEEM_FINAL_FORM MEEM_INITIAL_FORM
YEH_FINAL_FORM ARABIC_LIGATURE_BEH_WITH_: ALEF_MAKSURA_FINAL_FORM ALEF_MAKSURA_ISOLATED_FORM
HAH_INITIAL_FORM HAH_ISOLATED_FORM HAH_WITH_YEH_FINAL_FORM HEH_INITIAL_FORM HEH_MEDIAL_FORM
JEEM_INITIAL_FORM JEEM_ISOLATED_FORM KHAH_INITIAL_FORM KHAH_ISOLATED_FORM KHAH_WITH_YEH_FINAL_FORM
MEEM_FINAL_FORM MEEM_INITIAL_FORM MEEM_ISOLATED_FORM MEEM_MEDIAL_FORM NOON_FINAL_FORM REH_FINAL_FORM
YEH_FINAL_FORM YEH_ISOLATED_FORM ZAIN_FINAL_FORM ARABIC_LIGATURE_DAD_WITH_: ALEF_MAKSURA_FINAL_FORM
ALEF_MAKSURA_ISOLATED_FORM HAH_INITIAL_FORM HAH_ISOLATED_FORM HAH_WITH_ALEF_MAKSURA_FINAL_FORM
HAH_WITH_YEH_FINAL_FORM JEEM_INITIAL_FORM JEEM_ISOLATED_FORM KHAH_INITIAL_FORM KHAH_ISOLATED_FORM
KHAH_WITH_MEEM_FINAL_FORM KHAH_WITH_MEEM_INITIAL_FORM MEEM_INITIAL_FORM MEEM_ISOLATED_FORM
REH_FINAL_FORM REH_ISOLATED_FORM YEH_FINAL_FORM YEH_ISOLATED_FORM ARABIC_LIGATURE_FEH_WITH_:
ALEF_MAKSURA_FINAL_FORM ALEF_MAKSURA_ISOLATED_FORM HAH_INITIAL_FORM HAH_ISOLATED_FORM
JEEM_INITIAL_FORM JEEM_ISOLATED_FORM KHAH_INITIAL_FORM KHAH_ISOLATED_FORM KHAH_WITH_MEEM_FINAL_FORM
KHAH_WITH_MEEM_INITIAL_FORM MEEM_INITIAL_FORM MEEM_ISOLATED_FORM MEEM_WITH_YEH_FINAL_FORM
YEH_FINAL_FORM YEH_ISOLATED_FORM ARABIC_LIGATURE_GHAIN_WITH_: ALEF_MAKSURA_FINAL_FORM
ALEF_MAKSURA_ISOLATED_FORM JEEM_INITIAL_FORM JEEM_ISOLATED_FORM MEEM_INITIAL_FORM MEEM_ISOLATED_FORM
MEEM_WITH_ALEF_MAKSURA_FINAL_FORM MEEM_WITH_MEEM_FINAL_FORM MEEM_WITH_YEH_FINAL_FORM YEH_FINAL_FORM
YEH_ISOLATED_FORM ARABIC_LIGATURE_HAH_WITH_: ALEF_MAKSURA_FINAL_FORM ALEF_MAKSURA_ISOLATED_FORM
JEEM_INITIAL_FORM JEEM_ISOLATED_FORM JEEM_WITH_YEH_FINAL_FORM MEEM_INITIAL_FORM MEEM_ISOLATED_FORM
MEEM_WITH_ALEF_MAKSURA_FINAL_FORM MEEM_WITH_YEH_FINAL_FORM YEH_FINAL_FORM YEH_ISOLATED_FORM
ARABIC_LIGATURE_HEH_WITH_: ALEF_MAKSURA_ISOLATED_FORM JEEM_INITIAL_FORM JEEM_ISOLATED_FORM
MEEM_INITIAL_FORM MEEM_ISOLATED_FORM MEEM_WITH_JEEM_INITIAL_FORM MEEM_WITH_MEEM_INITIAL_FORM
SUPERSCRIPT_ALEF_INITIAL_FORM YEH_ISOLATED_FORM ARABIC_LIGATURE_JEEM_WITH_: ALEF_MAKSURA_FINAL_FORM
ALEF_MAKSURA_ISOLATED_FORM HAH_INITIAL_FORM HAH_ISOLATED_FORM HAH_WITH_ALEF_MAKSURA_FINAL_FORM
HAH_WITH_YEH_FINAL_FORM MEEM_INITIAL_FORM MEEM_ISOLATED_FORM YEH_FINAL_FORM YEH_ISOLATED_FORM
ARABIC_LIGATURE_JEEM_WITH_MEEM_WITH_: ALEF_MAKSURA_FINAL_FORM HAH_FINAL_FORM HAH_INITIAL_FORM
YEH_FINAL_FORM ARABIC_LIGATURE_KAF_WITH_: ALEF_FINAL_FORM ALEF_ISOLATED_FORM ALEF_MAKSURA_FINAL_FORM
ALEF_MAKSURA_ISOLATED_FORM HAH_INITIAL_FORM HAH_ISOLATED_FORM JEEM_INITIAL_FORM JEEM_ISOLATED_FORM
KHAH_INITIAL_FORM KHAH_ISOLATED_FORM LAM_FINAL_FORM LAM_INITIAL_FORM LAM_ISOLATED_FORM
LAM_MEDIAL_FORM YEH_FINAL_FORM YEH_ISOLATED_FORM ARABIC_LIGATURE_KAF_WITH_MEEM_:
ARABIC_LIGATURE_YEH_WITH_MEEM_: FINAL_FORM INITIAL_FORM ISOLATED_FORM MEDIAL_FORM
WITH_MEEM_FINAL_FORM WITH_MEEM_INITIAL_FORM WITH_YEH_FINAL_FORM ARABIC_LIGATURE_KHAH_WITH_:
ALEF_MAKSURA_FINAL_FORM ALEF_MAKSURA_ISOLATED_FORM HAH_ISOLATED_FORM JEEM_INITIAL_FORM
JEEM_ISOLATED_FORM MEEM_INITIAL_FORM MEEM_ISOLATED_FORM YEH_FINAL_FORM YEH_ISOLATED_FORM
ARABIC_LIGATURE_LAM_WITH_: ALEF_FINAL_FORM ALEF_ISOLATED_FORM ALEF_MAKSURA_FINAL_FORM
ALEF_MAKSURA_ISOLATED_FORM HAH_INITIAL_FORM HAH_ISOLATED_FORM HAH_WITH_ALEF_MAKSURA_FINAL_FORM
HAH_WITH_MEEM_FINAL_FORM HAH_WITH_MEEM_INITIAL_FORM HAH_WITH_YEH_FINAL_FORM HEH_INITIAL_FORM
JEEM_INITIAL_FORM JEEM_ISOLATED_FORM KHAH_INITIAL_FORM KHAH_ISOLATED_FORM KHAH_WITH_MEEM_FINAL_FORM
KHAH_WITH_MEEM_INITIAL_FORM YEH_FINAL_FORM YEH_ISOLATED_FORM ARABIC_LIGATURE_LAM_WITH_ALEF_WITH_:
HAMZA_ABOVE_FINAL_FORM HAMZA_ABOVE_ISOLATED_FORM HAMZA_BELOW_FINAL_FORM HAMZA_BELOW_ISOLATED_FORM
MADDA_ABOVE_FINAL_FORM MADDA_ABOVE_ISOLATED_FORM ARABIC_LIGATURE_LAM_WITH_JEEM_WITH_:
JEEM_FINAL_FORM JEEM_INITIAL_FORM MEEM_FINAL_FORM MEEM_INITIAL_FORM YEH_FINAL_FORM
ARABIC_LIGATURE_LAM_WITH_MEEM_: FINAL_FORM INITIAL_FORM ISOLATED_FORM MEDIAL_FORM
WITH_HAH_FINAL_FORM WITH_HAH_INITIAL_FORM WITH_YEH_FINAL_FORM ARABIC_LIGATURE_MEEM_WITH_:
ALEF_FINAL_FORM ALEF_MAKSURA_ISOLATED_FORM HAH_INITIAL_FORM HAH_ISOLATED_FORM
HAH_WITH_JEEM_INITIAL_FORM HAH_WITH_MEEM_INITIAL_FORM HAH_WITH_YEH_FINAL_FORM JEEM_INITIAL_FORM
JEEM_ISOLATED_FORM KHAH_INITIAL_FORM KHAH_ISOLATED_FORM KHAH_WITH_JEEM_INITIAL_FORM
KHAH_WITH_MEEM_INITIAL_FORM KHAH_WITH_YEH_FINAL_FORM MEEM_FINAL_FORM MEEM_INITIAL_FORM
MEEM_ISOLATED_FORM MEEM_WITH_YEH_FINAL_FORM YEH_ISOLATED_FORM ARABIC_LIGATURE_MEEM_WITH_JEEM_WITH_:
HAH_INITIAL_FORM KHAH_INITIAL_FORM MEEM_INITIAL_FORM YEH_FINAL_FORM ARABIC_LIGATURE_NOON_WITH_:
ALEF_MAKSURA_FINAL_FORM ALEF_MAKSURA_ISOLATED_FORM HAH_INITIAL_FORM HAH_ISOLATED_FORM
HAH_WITH_ALEF_MAKSURA_FINAL_FORM HAH_WITH_MEEM_INITIAL_FORM HAH_WITH_YEH_FINAL_FORM HEH_INITIAL_FORM
HEH_MEDIAL_FORM JEEM_INITIAL_FORM JEEM_ISOLATED_FORM KHAH_INITIAL_FORM KHAH_ISOLATED_FORM
MEEM_FINAL_FORM MEEM_INITIAL_FORM MEEM_ISOLATED_FORM MEEM_MEDIAL_FORM
MEEM_WITH_ALEF_MAKSURA_FINAL_FORM MEEM_WITH_YEH_FINAL_FORM NOON_FINAL_FORM REH_FINAL_FORM
YEH_FINAL_FORM YEH_ISOLATED_FORM ZAIN_FINAL_FORM ARABIC_LIGATURE_NOON_WITH_JEEM_WITH_:
ALEF_MAKSURA_FINAL_FORM HAH_FINAL_FORM HAH_INITIAL_FORM MEEM_FINAL_FORM MEEM_INITIAL_FORM
YEH_FINAL_FORM ARABIC_LIGATURE_QAF_WITH_: ALEF_MAKSURA_FINAL_FORM ALEF_MAKSURA_ISOLATED_FORM
HAH_INITIAL_FORM HAH_ISOLATED_FORM MEEM_INITIAL_FORM MEEM_ISOLATED_FORM YEH_FINAL_FORM
YEH_ISOLATED_FORM ARABIC_LIGATURE_QAF_WITH_MEEM_WITH_: HAH_FINAL_FORM HAH_INITIAL_FORM
MEEM_FINAL_FORM YEH_FINAL_FORM ARABIC_LIGATURE_RADI_ALLAAHU_: ANH ANHAA ANHUM ANHUMAA ANHUNNA
ARABIC_LIGATURE_SAD_WITH_: ALEF_MAKSURA_FINAL_FORM ALEF_MAKSURA_ISOLATED_FORM HAH_INITIAL_FORM
HAH_ISOLATED_FORM HAH_WITH_HAH_FINAL_FORM HAH_WITH_HAH_INITIAL_FORM HAH_WITH_YEH_FINAL_FORM
KHAH_INITIAL_FORM MEEM_INITIAL_FORM MEEM_ISOLATED_FORM MEEM_WITH_MEEM_FINAL_FORM
MEEM_WITH_MEEM_INITIAL_FORM REH_FINAL_FORM REH_ISOLATED_FORM YEH_FINAL_FORM YEH_ISOLATED_FORM
ARABIC_LIGATURE_SEEN_WITH_: ALEF_MAKSURA_FINAL_FORM ALEF_MAKSURA_ISOLATED_FORM HAH_INITIAL_FORM
HAH_ISOLATED_FORM HAH_MEDIAL_FORM HAH_WITH_JEEM_INITIAL_FORM HEH_INITIAL_FORM HEH_MEDIAL_FORM
JEEM_INITIAL_FORM JEEM_ISOLATED_FORM JEEM_MEDIAL_FORM JEEM_WITH_ALEF_MAKSURA_FINAL_FORM
JEEM_WITH_HAH_INITIAL_FORM KHAH_INITIAL_FORM KHAH_ISOLATED_FORM KHAH_MEDIAL_FORM
KHAH_WITH_ALEF_MAKSURA_FINAL_FORM KHAH_WITH_YEH_FINAL_FORM MEEM_INITIAL_FORM MEEM_ISOLATED_FORM
MEEM_MEDIAL_FORM REH_FINAL_FORM REH_ISOLATED_FORM YEH_FINAL_FORM YEH_ISOLATED_FORM
ARABIC_LIGATURE_SEEN_WITH_MEEM_WITH_: HAH_FINAL_FORM HAH_INITIAL_FORM JEEM_INITIAL_FORM
MEEM_FINAL_FORM MEEM_INITIAL_FORM ARABIC_LIGATURE_SHADDA_WITH_: DAMMA_ISOLATED_FORM
DAMMA_MEDIAL_FORM DAMMATAN_ISOLATED_FORM FATHA_ISOLATED_FORM FATHA_MEDIAL_FORM KASRA_ISOLATED_FORM
KASRA_MEDIAL_FORM KASRATAN_ISOLATED_FORM SUPERSCRIPT_ALEF_ISOLATED_FORM ARABIC_LIGATURE_SHEEN_WITH_:
ALEF_MAKSURA_FINAL_FORM ALEF_MAKSURA_ISOLATED_FORM HAH_FINAL_FORM HAH_INITIAL_FORM HAH_ISOLATED_FORM
HAH_MEDIAL_FORM HAH_WITH_MEEM_FINAL_FORM HAH_WITH_MEEM_INITIAL_FORM HAH_WITH_YEH_FINAL_FORM
HEH_INITIAL_FORM HEH_MEDIAL_FORM JEEM_FINAL_FORM JEEM_INITIAL_FORM JEEM_ISOLATED_FORM
JEEM_MEDIAL_FORM JEEM_WITH_YEH_FINAL_FORM KHAH_FINAL_FORM KHAH_INITIAL_FORM KHAH_ISOLATED_FORM
KHAH_MEDIAL_FORM REH_FINAL_FORM REH_ISOLATED_FORM YEH_FINAL_FORM YEH_ISOLATED_FORM
ARABIC_LIGATURE_SHEEN_WITH_MEEM_: FINAL_FORM INITIAL_FORM ISOLATED_FORM MEDIAL_FORM
WITH_KHAH_FINAL_FORM WITH_KHAH_INITIAL_FORM WITH_MEEM_FINAL_FORM WITH_MEEM_INITIAL_FORM
ARABIC_LIGATURE_TAH_WITH_: ALEF_MAKSURA_FINAL_FORM ALEF_MAKSURA_ISOLATED_FORM HAH_INITIAL_FORM
HAH_ISOLATED_FORM MEEM_INITIAL_FORM MEEM_ISOLATED_FORM MEEM_MEDIAL_FORM YEH_FINAL_FORM
YEH_ISOLATED_FORM ARABIC_LIGATURE_TAH_WITH_MEEM_WITH_: HAH_FINAL_FORM HAH_INITIAL_FORM
MEEM_INITIAL_FORM YEH_FINAL_FORM ARABIC_LIGATURE_TEH_WITH_: ALEF_MAKSURA_FINAL_FORM
ALEF_MAKSURA_ISOLATED_FORM HAH_INITIAL_FORM HAH_ISOLATED_FORM HAH_WITH_JEEM_FINAL_FORM
HAH_WITH_JEEM_INITIAL_FORM HAH_WITH_MEEM_INITIAL_FORM HEH_INITIAL_FORM HEH_MEDIAL_FORM
JEEM_INITIAL_FORM JEEM_ISOLATED_FORM JEEM_WITH_ALEF_MAKSURA_FINAL_FORM JEEM_WITH_MEEM_INITIAL_FORM
JEEM_WITH_YEH_FINAL_FORM KHAH_INITIAL_FORM KHAH_ISOLATED_FORM KHAH_WITH_ALEF_MAKSURA_FINAL_FORM
KHAH_WITH_MEEM_INITIAL_FORM KHAH_WITH_YEH_FINAL_FORM MEEM_FINAL_FORM MEEM_INITIAL_FORM
MEEM_ISOLATED_FORM MEEM_MEDIAL_FORM NOON_FINAL_FORM REH_FINAL_FORM YEH_FINAL_FORM YEH_ISOLATED_FORM
ZAIN_FINAL_FORM ARABIC_LIGATURE_TEH_WITH_MEEM_WITH_: ALEF_MAKSURA_FINAL_FORM HAH_INITIAL_FORM
JEEM_INITIAL_FORM KHAH_INITIAL_FORM YEH_FINAL_FORM ARABIC_LIGATURE_THEH_WITH_:
ALEF_MAKSURA_FINAL_FORM ALEF_MAKSURA_ISOLATED_FORM HEH_MEDIAL_FORM JEEM_ISOLATED_FORM
MEEM_FINAL_FORM MEEM_INITIAL_FORM MEEM_ISOLATED_FORM MEEM_MEDIAL_FORM NOON_FINAL_FORM REH_FINAL_FORM
YEH_FINAL_FORM YEH_ISOLATED_FORM ZAIN_FINAL_FORM
ARABIC_LIGATURE_UIGHUR_KIRGHIZ_YEH_WITH_HAMZA_ABOVE_WITH_ALEF_MAKSURA_: FINAL_FORM INITIAL_FORM
ISOLATED_FORM ARABIC_LIGATURE_YEH_WITH_: ALEF_MAKSURA_FINAL_FORM ALEF_MAKSURA_ISOLATED_FORM
HAH_INITIAL_FORM HAH_ISOLATED_FORM HAH_WITH_YEH_FINAL_FORM HEH_INITIAL_FORM HEH_MEDIAL_FORM
JEEM_INITIAL_FORM JEEM_ISOLATED_FORM JEEM_WITH_YEH_FINAL_FORM KHAH_INITIAL_FORM KHAH_ISOLATED_FORM
NOON_FINAL_FORM REH_FINAL_FORM YEH_FINAL_FORM YEH_ISOLATED_FORM ZAIN_FINAL_FORM
ARABIC_LIGATURE_YEH_WITH_HAMZA_ABOVE_WITH_: AE_FINAL_FORM AE_ISOLATED_FORM ALEF_FINAL_FORM
ALEF_ISOLATED_FORM ALEF_MAKSURA_FINAL_FORM ALEF_MAKSURA_ISOLATED_FORM E_FINAL_FORM E_INITIAL_FORM
E_ISOLATED_FORM HAH_INITIAL_FORM HAH_ISOLATED_FORM HEH_INITIAL_FORM HEH_MEDIAL_FORM
JEEM_INITIAL_FORM JEEM_ISOLATED_FORM KHAH_INITIAL_FORM MEEM_FINAL_FORM MEEM_INITIAL_FORM
MEEM_ISOLATED_FORM MEEM_MEDIAL_FORM NOON_FINAL_FORM OE_FINAL_FORM OE_ISOLATED_FORM REH_FINAL_FORM
U_FINAL_FORM U_ISOLATED_FORM WAW_FINAL_FORM WAW_ISOLATED_FORM YEH_FINAL_FORM YEH_ISOLATED_FORM
YU_FINAL_FORM YU_ISOLATED_FORM ZAIN_FINAL_FORM ARABIC_LIGATURE_ZAH_WITH_MEEM_: INITIAL_FORM
ISOLATED_FORM MEDIAL_FORM ARABIC_SYMBOL_: DOT_ABOVE DOT_BELOW DOUBLE_VERTICAL_BAR_BELOW
FOUR_DOTS_ABOVE FOUR_DOTS_BELOW RING SMALL_TAH_ABOVE SMALL_TAH_BELOW WASLA_ABOVE
ARABIC_SYMBOL_THREE_DOTS_: ABOVE BELOW POINTING_DOWNWARDS_ABOVE POINTING_DOWNWARDS_BELOW
ARABIC_SYMBOL_TWO_DOTS_: ABOVE BELOW VERTICALLY_ABOVE VERTICALLY_BELOW ARMENIAN_SMALL_LIGATURE_:
MEN_ECH MEN_INI MEN_NOW MEN_XEH VEW_NOW BAMUM_: COLON COMMA FULL_STOP NJAEMLI QUESTION_MARK
SEMICOLON BAMUM_COMBINING_MARK_: KOQNDON TUKWENTIS BAMUM_LETTER_: A EE FAAMAE FEE FOM FU I KA KEN
KET KEUX KI KO KOGHOM KOVUU KPA KU KYEE LA LEEEE LI LOQ LU M MA MBAA MBEN MEEEE MEN MI MO MU NA NDAA
NGA NGGA NGKWAEN NI NJAEM NJEE NJUAE NSHA NTEE NTUU NU NUAE NYI O PA PEE PEUX PI PUAE PUE RAE REE
REN REUX RIEE RII RU SAMBA SEUX SHEUX SHII SHO SHU SI SUU TAA TAE TEN TET TI U WA WUE YA YOQ YUQ
CENTRELINE_: DASHED_: WAVY_: LOW_LINE OVERLINE CHAM_CONSONANT_SIGN_: FINAL_H FINAL_M FINAL_NG LA RA
WA YA CHAM_DIGIT_: COMBINING_DEVANAGARI_DIGIT_: FULLWIDTH_DIGIT_: JAVANESE_DIGIT_: KAYAH_LI_DIGIT_:
MEETEI_MAYEK_DIGIT_: MYANMAR_TAI_LAING_DIGIT_: SAURASHTRA_DIGIT_: VAI_DIGIT_: EIGHT FIVE FOUR NINE
ONE SEVEN SIX THREE TWO ZERO CHAM_LETTER_: A AI BA BBA BHA CHA CHHA DA DDA DHA E GA GHA HA I JA JHA
KA KHA LA MA MUE NA NGA NGUE NHA NHJA NHUE NUE O PA PHA PPA RA SA SSA TA THA U VA YA
CHAM_LETTER_FINAL_: CH G K L N NG P R SS T Y CHAM_PUNCTUATION_: DANDA DOUBLE_DANDA SPIRAL
TRIPLE_DANDA CHAM_VOWEL_SIGN_: AA AI AU EI I II O OE U UE CHEROKEE_SMALL_LETTER_: A DA DE DI DLA DO
DU DV E GA GE GI GO GU GV HA HE HI HNA HO HU HV I KA LA LE LI LO LU LV MA ME MI MO MU NA NAH NE NI
NO NU NV O QUA QUE QUI QUO QUU QUV S SA SE SI SO SU SV TA TE TI TLA TLE TLI TLO TLU TLV TSA TSE TSI
TSO TSU TSV U V WA WE WI WO WU WV YA COMBINING_: CONJOINING_MACRON CONJOINING_MACRON_BELOW
DEVANAGARI_SIGN_AVAGRAHA TILDE_LEFT_HALF_BELOW TILDE_RIGHT_HALF_BELOW COMBINING_CYRILLIC_:
HUNDRED_MILLIONS_SIGN KAVYKA PAYEROK TEN_MILLIONS_SIGN THOUSAND_MILLIONS_SIGN TITLO_LEFT_HALF
TITLO_RIGHT_HALF VZMET COMBINING_CYRILLIC_LETTER_: EF HARD_SIGN I IOTIFIED_E OMEGA SOFT_SIGN U
UKRAINIAN_IE YERU YI COMBINING_DEVANAGARI_LETTER_: A KA NA PA RA U VI COMBINING_DOUBLE_TILDE_:
LEFT_HALF RIGHT_HALF COMBINING_LIGATURE_: COMBINING_MACRON_: LEFT_HALF LEFT_HALF_BELOW RIGHT_HALF
RIGHT_HALF_BELOW CYRILLIC_: KAVYKA LETTER_MULTIOCULAR_O PAYEROK CYRILLIC_CAPITAL_LETTER_:
CYRILLIC_SMALL_LETTER_: BINOCULAR_O BLENDED_YUS BROAD_OMEGA CCHE CLOSED_LITTLE_YUS CROSSED_O DJERV
DOUBLE_MONOCULAR_O DOUBLE_O DWE DZELO DZWE DZZE HWE IOTA IOTIFIED_A IOTIFIED_CLOSED_LITTLE_YUS
IOTIFIED_YAT MONOCULAR_O MONOGRAPH_UK NEUTRAL_YER REVERSED_DZE REVERSED_TSE REVERSED_YU SHWE SOFT_DE
SOFT_EL SOFT_EM TCHE TE_WITH_MIDDLE_HOOK TSSE TSWE TWE YERU_WITH_BACK_YER YN ZEMLYA ZHWE
DEVANAGARI_: CARET GAP_FILLER HEADSTROKE JAIN_OM LETTER_AY VOWEL_SIGN_AY DEVANAGARI_SIGN_:
DOUBLE_CANDRABINDU_VIRAMA PUSHPIKA SIDDHAM SPACING_CANDRABINDU DEVANAGARI_SIGN_CANDRABINDU_:
AVAGRAHA THREE TWO VIRAMA ETHIOPIC_SYLLABLE_: BBA BBAA BBE BBEE BBI BBO BBU CCHHA CCHHAA CCHHE
CCHHEE CCHHI CCHHO CCHHU DDHAA DDHE DDHEE DDHI DDHO DDHU DZAA DZE DZEE DZI DZO DZU TTHAA TTHE TTHEE
TTHI TTHO TTHU FULLWIDTH_: AMPERSAND APOSTROPHE ASTERISK BROKEN_BAR CENT_SIGN CIRCUMFLEX_ACCENT
COLON COMMA COMMERCIAL_AT DOLLAR_SIGN EQUALS_SIGN EXCLAMATION_MARK FULL_STOP GRAVE_ACCENT
GREATER-THAN_SIGN HYPHEN-MINUS LESS-THAN_SIGN LOW_LINE MACRON NOT_SIGN NUMBER_SIGN PERCENT_SIGN
PLUS_SIGN POUND_SIGN QUESTION_MARK QUOTATION_MARK REVERSE_SOLIDUS SEMICOLON SOLIDUS TILDE
VERTICAL_LINE WON_SIGN YEN_SIGN FULLWIDTH_LATIN_CAPITAL_LETTER_: FULLWIDTH_LATIN_SMALL_LETTER_: A B
C D E F G H I J K L M N O P Q R S T U V W X Y Z FULLWIDTH_LEFT_: FULLWIDTH_RIGHT_: CURLY_BRACKET
PARENTHESIS SQUARE_BRACKET WHITE_PARENTHESIS HALFWIDTH_: BLACK_SQUARE DOWNWARDS_ARROW
FORMS_LIGHT_VERTICAL HANGUL_FILLER IDEOGRAPHIC_COMMA IDEOGRAPHIC_FULL_STOP
KATAKANA-HIRAGANA_PROLONGED_SOUND_MARK LEFT_CORNER_BRACKET LEFTWARDS_ARROW RIGHT_CORNER_BRACKET
RIGHTWARDS_ARROW UPWARDS_ARROW WHITE_CIRCLE HALFWIDTH_HANGUL_LETTER_: A AE CHIEUCH CIEUC E EO EU
HIEUH I IEUNG KHIEUKH KIYEOK KIYEOK-SIOS MIEUM NIEUN NIEUN-CIEUC NIEUN-HIEUH O OE PHIEUPH PIEUP
PIEUP-SIOS RIEUL SIOS SSANGCIEUC SSANGKIYEOK SSANGPIEUP SSANGSIOS SSANGTIKEUT THIEUTH TIKEUT U WA
WAE WE WEO WI YA YAE YE YEO YI YO YU HALFWIDTH_HANGUL_LETTER_RIEUL-: HIEUH KIYEOK MIEUM PHIEUPH
PIEUP SIOS THIEUTH HALFWIDTH_KATAKANA_: MIDDLE_DOT SEMI-VOICED_SOUND_MARK VOICED_SOUND_MARK
HALFWIDTH_KATAKANA_LETTER_: A E HA HE HI HO HU I KA KE KI KO KU MA ME MI MO MU N NA NE NI NO NU O RA
RE RI RO RU SA SE SI SO SU TA TE TI TO TU U WA WO YA YO YU HALFWIDTH_KATAKANA_LETTER_SMALL_: A E I O
TU U YA YO YU HANGUL_CHOSEONG_: HIEUH-SIOS IEUNG-HIEUH IEUNG-RIEUL MIEUM-KIYEOK MIEUM-SIOS
MIEUM-TIKEUT PHIEUPH-HIEUH PIEUP-HIEUH PIEUP-KHIEUKH PIEUP-SIOS-THIEUTH SSANGCIEUC-HIEUH
SSANGSIOS-PIEUP SSANGTHIEUTH SSANGYEORINHIEUH HANGUL_CHOSEONG_RIEUL-: CIEUC KAPYEOUNPIEUP KHIEUKH
KIYEOK MIEUM PIEUP SIOS SSANGKIYEOK SSANGPIEUP SSANGTIKEUT TIKEUT HANGUL_CHOSEONG_TIKEUT-: CIEUC
MIEUM PIEUP SIOS HEBREW_LETTER_: ALTERNATIVE_AYIN ALTERNATIVE_PLUS_SIGN BET_WITH_DAGESH
BET_WITH_RAFE DALET_WITH_DAGESH FINAL_KAF_WITH_DAGESH FINAL_PE_WITH_DAGESH GIMEL_WITH_DAGESH
HE_WITH_MAPIQ KAF_WITH_DAGESH KAF_WITH_RAFE LAMED_WITH_DAGESH MEM_WITH_DAGESH NUN_WITH_DAGESH
PE_WITH_DAGESH PE_WITH_RAFE QOF_WITH_DAGESH RESH_WITH_DAGESH SAMEKH_WITH_DAGESH TAV_WITH_DAGESH
TET_WITH_DAGESH TSADI_WITH_DAGESH VAV_WITH_DAGESH VAV_WITH_HOLAM YOD_WITH_DAGESH YOD_WITH_HIRIQ
ZAYIN_WITH_DAGESH HEBREW_LETTER_ALEF_WITH_: MAPIQ PATAH QAMATS HEBREW_LETTER_SHIN_WITH_: DAGESH
DAGESH_AND_SHIN_DOT DAGESH_AND_SIN_DOT SHIN_DOT SIN_DOT HEBREW_LETTER_WIDE_: ALEF DALET FINAL_MEM HE
KAF LAMED RESH TAV HEBREW_LIGATURE_: ALEF_LAMED YIDDISH_YOD_YOD_PATAH INTERLINEAR_ANNOTATION_:
ANCHOR SEPARATOR TERMINATOR JAVANESE_: LEFT_RERENGGAN PANGKON PANGRANGKEP RIGHT_RERENGGAN
TURNED_PADA_PISELEH JAVANESE_CONSONANT_SIGN_: CAKRA KERET PENGKAL JAVANESE_LETTER_: A AI BA BA_MURDA
CA CA_MURDA DA DA_MAHAPRANA DDA DDA_MAHAPRANA E GA GA_MURDA HA I I_KAWI II JA JA_MAHAPRANA KA
KA_MURDA KA_SASAK LA MA NA NA_MURDA NGA NGA_LELET NGA_LELET_RASWADI NYA NYA_MURDA O PA PA_CEREK
PA_MURDA RA RA_AGUNG SA SA_MAHAPRANA SA_MURDA TA TA_MURDA TTA TTA_MAHAPRANA U WA YA JAVANESE_PADA_:
ADEG ADEG_ADEG ANDAP ISEN-ISEN LINGSA LUHUR LUNGSI MADYA PANGKAT PISELEH TIRTA_TUMETES WINDU
JAVANESE_SIGN_: CECAK CECAK_TELU LAYAR PANYANGGA WIGNYAN JAVANESE_VOWEL_SIGN_: DIRGA_MURE PEPET SUKU
SUKU_MENDUT TALING TARUNG TOLONG WULU WULU_MELIK KAYAH_LI_LETTER_: A BA CA DA GA HA HTA I KA KHA LA
MA NA NGA NYA OE OO PA PHA RA SA SHA TA THA VA WA YA ZA KAYAH_LI_SIGN_: CWI SHYA KAYAH_LI_TONE_:
CALYA CALYA_PLOPHU PLOPHU KAYAH_LI_VOWEL_: E EE O U UE LATIN_CAPITAL_LETTER_: AA ANGLICANA_W AO AU
AV AV_WITH_HORIZONTAL_BAR AY B_WITH_FLOURISH BETA BROKEN_L C_WITH_BAR C_WITH_PALATAL_HOOK CHI
CLOSED_INSULAR_G CON CUATRILLO CUATRILLO_WITH_COMMA D_WITH_SHORT_STROKE_OVERLAY EGYPTOLOGICAL_AIN
EGYPTOLOGICAL_ALEF ET F_WITH_STROKE G_WITH_OBLIQUE_STROKE GLOTTAL_A GLOTTAL_I GLOTTAL_U H_WITH_HOOK
HENG IS J_WITH_CROSSED-TAIL K_WITH_DIAGONAL_STROKE K_WITH_OBLIQUE_STROKE K_WITH_STROKE
K_WITH_STROKE_AND_DIAGONAL_STROKE L_WITH_BELT L_WITH_HIGH_STROKE MIDDLE_SCOTS_S N_WITH_DESCENDER
N_WITH_OBLIQUE_STROKE O_WITH_LONG_STROKE_OVERLAY O_WITH_LOOP OLD_POLISH_O OMEGA OO P_WITH_FLOURISH
P_WITH_SQUIRREL_TAIL P_WITH_STROKE_THROUGH_DESCENDER Q_WITH_DIAGONAL_STROKE
Q_WITH_STROKE_THROUGH_DESCENDER R_ROTUNDA R_WITH_OBLIQUE_STROKE REVERSED_C_WITH_DOT REVERSED_HALF_H
REVERSED_OPEN_E RUM_ROTUNDA S_WITH_HOOK S_WITH_OBLIQUE_STROKE S_WITH_SHORT_STROKE_OVERLAY SALTILLO
SCRIPT_G SIGMOID_S SMALL_CAPITAL_I THORN_WITH_STROKE THORN_WITH_STROKE_THROUGH_DESCENDER TRESILLO TZ
U_WITH_STROKE V_WITH_DIAGONAL_STROKE VEND VISIGOTHIC_Z VOLAPUK_AE VOLAPUK_OE VOLAPUK_UE VY
Z_WITH_PALATAL_HOOK LATIN_CAPITAL_LETTER_INSULAR_: D F G R S T LATIN_CAPITAL_LETTER_TURNED_: H
INSULAR_G K L T LATIN_EPIGRAPHIC_LETTER_: ARCHAIC_M I_LONGA INVERTED_M REVERSED_F REVERSED_P
SIDEWAYS_I LATIN_LETTER_SMALL_CAPITAL_: F Q R_WITH_RIGHT_LEG RUM S TURNED_M LATIN_SMALL_LETTER_:
A_REVERSED-SCHWA AA ANGLICANA_W AO AU AV AV_WITH_HORIZONTAL_BAR AY B_WITH_FLOURISH BARRED_ALPHA
BARRED_E BASELINE_ESH BETA BROKEN_L C_WITH_BAR C_WITH_PALATAL_HOOK CHI CHI_WITH_LOW_LEFT_SERIF
CHI_WITH_LOW_RIGHT_RING CLOSED_INSULAR_G CON CUATRILLO CUATRILLO_WITH_COMMA
D_WITH_SHORT_STROKE_OVERLAY DOUBLE_R DOUBLE_R_WITH_CROSSED-TAIL DOUBLE_THORN DOUBLE_WYNN DUM
DZ_DIGRAPH_WITH_RETROFLEX_HOOK E_WITH_FLOURISH EGYPTOLOGICAL_AIN EGYPTOLOGICAL_ALEF
ENG_WITH_CROSSED-TAIL ET F_WITH_STROKE G_WITH_OBLIQUE_STROKE GLOTTAL_A GLOTTAL_I GLOTTAL_U
H_WITH_PALATAL_HOOK HENG INVERTED_ALPHA INVERTED_OE IOTIFIED_E IS K_WITH_DIAGONAL_STROKE
K_WITH_OBLIQUE_STROKE K_WITH_STROKE K_WITH_STROKE_AND_DIAGONAL_STROKE LENIS_F LUM
M_WITH_CROSSED-TAIL MIDDLE_SCOTS_S MUM N_WITH_CROSSED-TAIL N_WITH_DESCENDER N_WITH_OBLIQUE_STROKE
NUM O_WITH_LONG_STROKE_OVERLAY O_WITH_LOOP OLD_POLISH_O OMEGA OO OPEN_O_WITH_STROKE OPEN_OE
P_WITH_FLOURISH P_WITH_SQUIRREL_TAIL P_WITH_STROKE_THROUGH_DESCENDER Q_WITH_DIAGONAL_STROKE
Q_WITH_STROKE_THROUGH_DESCENDER R_ROTUNDA R_WITH_CROSSED-TAIL R_WITH_OBLIQUE_STROKE R_WITHOUT_HANDLE
REVERSED_C_WITH_DOT REVERSED_HALF_H RUM RUM_ROTUNDA S_WITH_OBLIQUE_STROKE
S_WITH_SHORT_STROKE_OVERLAY SAKHA_YAT SALTILLO SCRIPT_G_WITH_CROSSED-TAIL SCRIPT_R
SCRIPT_R_WITH_RING SIGMOID_S STIRRUP_R THORN_WITH_STROKE THORN_WITH_STROKE_THROUGH_DESCENDER
TRESILLO TS_DIGRAPH_WITH_RETROFLEX_HOOK TUM TZ U_BAR_WITH_SHORT_RIGHT_LEG U_WITH_LEFT_HOOK
U_WITH_SHORT_RIGHT_LEG U_WITH_STROKE UI UM UO V_WITH_DIAGONAL_STROKE VEND VISIGOTHIC_Z VOLAPUK_AE
VOLAPUK_OE VOLAPUK_UE VY X_WITH_LOW_RIGHT_RING Y_WITH_SHORT_RIGHT_LEG
LATIN_SMALL_LETTER_BLACKLETTER_: E O O_WITH_STROKE LATIN_SMALL_LETTER_INSULAR_: D F R S T
LATIN_SMALL_LETTER_L_WITH_: DOUBLE_MIDDLE_TILDE HIGH_STROKE INVERTED_LAZY_S MIDDLE_RING
RETROFLEX_HOOK_AND_BELT LATIN_SMALL_LETTER_TURNED_: INSULAR_G L O_OPEN-O O_OPEN-O_WITH_STROKE
OE_WITH_HORIZONTAL_STROKE OE_WITH_STROKE R_WITH_MIDDLE_TILDE UI
LATIN_SMALL_LETTER_X_WITH_LONG_LEFT_: LEG LEG_AND_LOW_RIGHT_RING LEG_WITH_SERIF
LATIN_SMALL_LIGATURE_: FF FFI FFL FI FL LONG_S_T ST LISU_LETTER_: A AE BA CA CHA DA DZA E EU FA GA
GHA HA HHA I JA KA KHA LA MA NA NGA O OE PA PHA SA SHA TA THA TONE_NA_PO TSA TSHA U UE UH WA XA YA
ZA ZHA LISU_LETTER_TONE_MYA_: BO CYA JEU NA TI LISU_PUNCTUATION_: COMMA FULL_STOP MEETEI_MAYEK_:
AHANG_KHUDAM ANJI APUN_IYEK CHEIKHAN CHEIKHEI LUM_IYEK SYLLABLE_REPETITION_MARK VIRAMA
WORD_REPETITION_MARK MEETEI_MAYEK_LETTER_: ATIYA BA BHAM CHA CHIL DDA DDHA DHOU DIL E GHOU GOK HUK I
I_LONSUM JHAM JIL KHOU KOK KOK_LONSUM LAI LAI_LONSUM MIT MIT_LONSUM NA NA_LONSUM NGOU NGOU_LONSUM
NNA NYA O PA PA_LONSUM PHAM RAI SAM SHA SSA THOU TIL TIL_LONSUM TTA TTHA UN WAI YANG
MEETEI_MAYEK_VOWEL_SIGN_: AAI AAU ANAP AU CHEINAP II INAP NUNG ONAP SOUNAP UNAP UU VISARGA YENAP
MODIFIER_LETTER_: COLON CYRILLIC_HARD_SIGN CYRILLIC_SOFT_SIGN DOT_HORIZONTAL_BAR DOT_SLASH
DOT_VERTICAL_BAR HIGH_DOTTED_LEFT-STEM_TONE_BAR HIGH_DOTTED_TONE_BAR HIGH_LEFT-STEM_TONE_BAR
LEFT_TACK LOW_CIRCUMFLEX_ACCENT LOW_DOTTED_LEFT-STEM_TONE_BAR LOW_DOTTED_TONE_BAR
LOW_INVERTED_EXCLAMATION_MARK LOW_LEFT-STEM_TONE_BAR LOWER_RIGHT_CORNER_ANGLE
MID_DOTTED_LEFT-STEM_TONE_BAR MID_DOTTED_TONE_BAR MID_LEFT-STEM_TONE_BAR RIGHT_TACK
SHORT_EQUALS_SIGN STRESS_AND_HIGH_TONE STRESS_AND_LOW_TONE US MODIFIER_LETTER_CAPITAL_: C F
H_WITH_STROKE Q MODIFIER_LETTER_CHINESE_TONE_: YANG_PING YANG_QU YANG_RU YANG_SHANG YIN_PING YIN_QU
YIN_RU YIN_SHANG MODIFIER_LETTER_EXTRA-: HIGH_DOTTED_LEFT-STEM_TONE_BAR HIGH_DOTTED_TONE_BAR
HIGH_LEFT-STEM_TONE_BAR LOW_DOTTED_LEFT-STEM_TONE_BAR LOW_DOTTED_TONE_BAR LOW_LEFT-STEM_TONE_BAR
MODIFIER_LETTER_RAISED_: DOWN_ARROW EXCLAMATION_MARK INVERTED_EXCLAMATION_MARK UP_ARROW
MODIFIER_LETTER_SMALL_: HENG L_WITH_INVERTED_LAZY_S L_WITH_MIDDLE_TILDE LIGATURE_OE TURNED_W
U_WITH_LEFT_HOOK MYANMAR_: LETTER_AITON_RA SIGN_PAO_KAREN_TONE SIGN_SHAN_SAW MYANMAR_LETTER_KHAMTI_:
CA CHA DDA DDHA DHA FA GA HA HHA JA JHA NA NYA RA SA TTA TTHA XA ZA MYANMAR_LETTER_SHAN_: BHA CHA
GHA JHA NNA MYANMAR_LETTER_SHWE_PALAUNG_: CHA SHA MYANMAR_LETTER_TAI_LAING_: BA BHA DA DDA DDHA DHA
FA GA GHA JA JHA LLA NNA NYA MYANMAR_LOGOGRAM_KHAMTI_: HM OAY QN MYANMAR_MODIFIER_LETTER_:
KHAMTI_REDUPLICATION SHAN_REDUPLICATION MYANMAR_SIGN_TAI_LAING_TONE-: 2 5 MYANMAR_SYMBOL_AITON_:
EXCLAMATION ONE TWO NORTH_INDIC_: PLACEHOLDER_MARK QUANTITY_MARK QUARTER_MARK RUPEE_MARK
NORTH_INDIC_FRACTION_: ONE_EIGHTH ONE_HALF ONE_QUARTER ONE_SIXTEENTH THREE_QUARTERS THREE_SIXTEENTHS
ORNATE_: LEFT_PARENTHESIS RIGHT_PARENTHESIS PHAGS-PA_: DOUBLE_HEAD_MARK MARK_DOUBLE_SHAD MARK_SHAD
SINGLE_HEAD_MARK SUPERFIXED_LETTER_RA PHAGS-PA_LETTER_: A ALTERNATE_YA ASPIRATED_FA BA CA
CANDRABINDU CHA DA DDA DZA E EE FA GA GGA HA I JA KA KHA LA MA NA NGA NNA NYA O PA PHA QA RA SA SHA
SMALL_A TA THA TSA TSHA TTA TTHA U VOICED_HA VOICELESS_SHA WA XA YA ZA ZHA
PHAGS-PA_SUBJOINED_LETTER_: RA WA YA PRESENTATION_FORM_FOR_VERTICAL_: COLON COMMA EM_DASH EN_DASH
EXCLAMATION_MARK HORIZONTAL_ELLIPSIS IDEOGRAPHIC_COMMA IDEOGRAPHIC_FULL_STOP LOW_LINE QUESTION_MARK
SEMICOLON TWO_DOT_LEADER WAVY_LOW_LINE PRESENTATION_FORM_FOR_VERTICAL_LEFT_: ANGLE_BRACKET
BLACK_LENTICULAR_BRACKET CORNER_BRACKET CURLY_BRACKET DOUBLE_ANGLE_BRACKET PARENTHESIS
SQUARE_BRACKET TORTOISE_SHELL_BRACKET WHITE_CORNER_BRACKET WHITE_LENTICULAR_BRACKET
PRESENTATION_FORM_FOR_VERTICAL_RIGHT_: ANGLE_BRACKET BLACK_LENTICULAR_BRACKET CORNER_BRACKET
CURLY_BRACKET DOUBLE_ANGLE_BRACKET PARENTHESIS SQUARE_BRACKET TORTOISE_SHELL_BRACKET
WHITE_CORNER_BRACKET WHITE_LENTICULAR_BRAKCET REJANG_: SECTION_MARK VIRAMA REJANG_CONSONANT_SIGN_: H
N NG R REJANG_LETTER_: A BA CA DA GA HA JA KA LA MA MBA NA NDA NGA NGGA NYA NYJA PA RA SA TA WA YA
REJANG_VOWEL_SIGN_: AI AU E EA EU I O U SAURASHTRA_: CONSONANT_SIGN_HAARU DANDA DOUBLE_DANDA
SAURASHTRA_LETTER_: A AA AI AU BA BHA CA CHA DA DDA DDHA DHA E EE GA GHA HA I II JA JHA KA KHA LA
LLA MA NA NGA NNA NYA O OO PA PHA RA SA SHA SSA TA THA TTA TTHA U UU VA YA
SAURASHTRA_LETTER_VOCALIC_: L LL R RR SAURASHTRA_SIGN_: ANUSVARA CANDRABINDU VIRAMA VISARGA
SAURASHTRA_VOWEL_SIGN_: AA AI AU E EE I II O OO U UU VOCALIC_L VOCALIC_LL VOCALIC_R VOCALIC_RR
SMALL_: AMPERSAND ASTERISK COLON COMMA COMMERCIAL_AT DOLLAR_SIGN EM_DASH EQUALS_SIGN
EXCLAMATION_MARK FULL_STOP GREATER-THAN_SIGN HYPHEN-MINUS IDEOGRAPHIC_COMMA LESS-THAN_SIGN
NUMBER_SIGN PERCENT_SIGN PLUS_SIGN QUESTION_MARK REVERSE_SOLIDUS SEMICOLON SMALL_LEFT_:
SMALL_RIGHT_: CURLY_BRACKET PARENTHESIS TORTOISE_SHELL_BRACKET SYLOTI_NAGRI_LETTER_: A BHO BO CHO CO
DDHO DDO DHO DO E GHO GO HO I JHO JO KHO KO LO MO NO O PHO PO RO RRO SO THO TO TTHO TTO U
SYLOTI_NAGRI_POETRY_MARK-: 1 2 3 4 SYLOTI_NAGRI_SIGN_: ALTERNATE_HASANTA ANUSVARA DVISVARA HASANTA
SYLOTI_NAGRI_VOWEL_SIGN_: A E I OO U TAI_VIET_LETTER_HIGH_: TAI_VIET_LETTER_LOW_: BO CHO CO DO FO GO
HO KHHO KHO KO LO MO NGO NO NYO O PHO PO RO SO THO TO VO YO TAI_VIET_MAI_: KANG KHIT
TAI_VIET_SYMBOL_: HO_HOI KOI_KOI KON NUENG SAM TAI_VIET_TONE_MAI_: EK NUENG SONG THO
TAI_VIET_VOWEL_: AA AM AN AUE AY E I IA O U UA UE UEA VAI_: COMMA FULL_STOP QUESTION_MARK
VAI_SYLLABLE_: A AN BA BE BEE BHA BHE BHEE BHI BHO BHOO BHU BI BO BOO BU CA CE CEE CI CO COO CU DA
DE DEE DHA DHE DHEE DHHA DHHE DHHEE DHHI DHHO DHHOO DHHU DHI DHO DHOO DHU DI DO DOO DU E EE EEN EN
FA FE FEE FI FO FOO FU GA GBA GBE GBEE GBEN GBI GBO GBON GBOO GBU GE GEE GEN GI GO GOO GU HA HAN HE
HEE HEN HI HIN HO HON HOO HU HUN I IN JA JE JEE JI JO JOO JU KA KAN KE KEE KI KO KOO KPA KPAN KPE
KPEE KPEN KPI KPO KPOO KPU KU LA LE LEE LENGTHENER LI LO LOO LU MA MBA MBE MBEE MBI MBO MBOO MBU ME
MEE MGBA MGBE MGBEE MGBI MGBO MGBOO MGBU MI MO MOO MU NA NDA NDE NDEE NDI NDO NDOO NDU NE NEE NG
NGAN NGEN NGGA NGGE NGGEE NGGEN NGGI NGGO NGGOO NGGU NGON NI NJA NJE NJEE NJI NJO NJOO NJU NO NOO NU
NYA NYE NYEE NYI NYO NYOO NYU O ON OO OON PA PE PEE PI PO POO PU RA RE REE RI RO ROO RU SA SE SEE
SHA SHE SHEE SHI SHO SHOO SHU SI SO SOO SU TA TE TEE THA THE THEE THI THO THOO THU TI TO TOO TU U UN
VA VE VEE VI VO VOO VU WA WAN WE WEE WEEN WEN WI WIN WO WON WOO WOON WU WUN YA YE YEE YI YO YOO YU
ZA ZE ZEE ZHA ZHE ZHEE ZHI ZHO ZHOO ZHU ZI ZO ZOO ZU VAI_SYLLABLE_NDOLE_: DO FA KA MA SOO
VAI_SYMBOL_: BANG DANG DO-O DOONG FAA FEENG JONG KEENG KUNG NII TAA TING TONG
"

end Sabotage.Text.CharacterName

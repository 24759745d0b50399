/-!
# Punctuation and symbols

Punctuation, arrows, mathematical and technical signs, and braille.
-/

namespace Sabotage.Text.CharacterName

/-- The listing of these names. -/
def symbolNames : String := "
: AC_CURRENT ACCOUNT_OF ACUTE_ANGLE ADDRESSED_TO_THE_SUBJECT ADI_SHAKTI ADMETOS AIRPLANE
AKTIESELSKAB ALARM_CLOCK ALEF_SYMBOL ALEMBIC ALTERNATE_ONE-WAY_LEFT_WAY_TRAFFIC
ALTERNATIVE_KEY_SYMBOL AMALGAMATION_OR_COPRODUCT ANCHOR AND_WITH_DOT ANGLE ANGSTROM_SIGN ANKH
APOLLON APPROACHES_THE_LIMIT AQUARIUS ARC ARIES ASCENDING_NODE ASSERTION ASTERISK_OPERATOR ASTERISM
ASTRAEA ASTRONOMICAL_SYMBOL_FOR_URANUS ASYMPTOTICALLY_EQUAL_TO ATOM_SYMBOL AUSTRAL_SIGN
BACK-TILTED_SHADOWED_WHITE_RIGHTWARDS_ARROW BALLOON-SPOKED_ASTERISK BASEBALL BECAUSE BELL_SYMBOL
BENT_ARROW_POINTING_DOWNWARDS_THEN_NORTH_EAST BET_SYMBOL BETWEEN BIOHAZARD_SIGN BITCOIN_SIGN
BLANK_SYMBOL BOWTIE BRAILLE_PATTERN_BLANK BROKEN_CIRCLE_WITH_NORTHWEST_ARROW BULLET BULLET_OPERATOR
BULLSEYE CADA_UNA CADUCEUS CANCER CAPITULUM CAPRICORN CAR_SLIDING CARE_OF CARET
CARET_INSERTION_POINT CASTLE CAUTION_SIGN CEDI_SIGN CENTRE_LINE_SYMBOL CERES CHAINS CHARACTER_TIE
CHECK_MARK CHI_RHO CHIRON CHURCH
CIRCLE_DIVIDED_BY_HORIZONTAL_BAR_AND_TOP_HALF_DIVIDED_BY_VERTICAL_BAR CIRCULATION_FUNCTION
CLEAR_SCREEN_SYMBOL CLOSE_UP CLOUD COFFIN COMET COMMERCIAL_MINUS_SIGN COMPLEMENT COMPOSITION_SYMBOL
CONGRUENT_WITH_DOT_ABOVE CONICAL_TAPER CONJUNCTION CONTINUOUS_UNDERLINE_SYMBOL CONTOUR_INTEGRAL
CORNISH_VERSE_DIVIDER CORRESPONDS_TO COUNTERBORE COUNTERSINK CROSSED_SWORDS CROSSING_LANES
CRUZEIRO_SIGN CUBE_ROOT CUP_ON_BLACK_SQUARE CUPIDO CURVED_STEM_PARAGRAPH_SIGN_ORNAMENT CYLINDRICITY
DAGGER DALET_SYMBOL DARK_SHADE DASH_WITH_LEFT_UPTURN DASHED_TRIANGLE-HEADED_RIGHTWARDS_ARROW
DELTA_EQUAL_TO DESCENDING_NODE DIAMETER_SIGN DIAMOND_OPERATOR DIFFERENCE_BETWEEN DIMENSION_ORIGIN
DINGBAT_CIRCLED_SANS-SERIF_NUMBER_TEN DIRECT_CURRENT_SYMBOL_FORM_TWO DISABLED_CAR
DISCONTINUOUS_UNDERLINE_SYMBOL DIVIDES DIVORCE_SYMBOL DONG_SIGN DOUBLE-ENDED_MULTIMAP DRACHMA_SIGN
DRAFTING_POINT_RIGHTWARDS_ARROW DRIVE_SLOW_SIGN EARTH EARTH_GROUND EAST_SYRIAC_CROSS
EDITORIAL_CORONIS EIGHTH_NOTE EJECT_SYMBOL ELECTRIC_ARROW ELECTRICAL_INTERSECTION ELEMENT_OF
EMPHASIS_SYMBOL EMPTY_SET END_OF_PROOF ENTER_SYMBOL ENVELOPE EQUIANGULAR_TO ESTIMATED_SYMBOL
ESTIMATES EULER_CONSTANT EURO_SIGN EURO-CURRENCY_SIGN EXCESS EXCLAMATION_QUESTION_MARK
FACSIMILE_SIGN FARSI_SYMBOL FEMALE_SIGN FERRY FINITE_PART_INTEGRAL FISHEYE FLAG_IN_HOLE FLATNESS
FLEUR-DE-LIS FLORAL_HEART FLOWER FLOWER_PUNCTUATION_MARK FOR_ALL FORCES FORKED_PARAGRAPHOS FORKING
FOUNTAIN FOUR-PER-EM_SPACE FOURTH_ROOT FRENCH_FRANC_SIGN
FRONT-TILTED_SHADOWED_WHITE_RIGHTWARDS_ARROW FROWN FUEL_PUMP FUNCTION_APPLICATION FUNERAL_URN FUSE
GEAR GEMINI GEOMETRIC_PROPORTION GERMAN_PENNY_SIGN GIMEL_SYMBOL GLEICH_STARK GROUP_MARK GUARANI_SIGN
HADES HAIR_SPACE HEADSTONE_GRAVEYARD_SYMBOL HELLSCHREIBER_PAUSE_SYMBOL HELM_SYMBOL
HELMET_WITH_WHITE_CROSS HERMITIAN_CONJUGATE_MATRIX HIGH_VOLTAGE_SIGN HISTORIC_SITE HOMOTHETIC
HOURGLASS HOURGLASS_WITH_FLOWING_SAND HOUSE HRYVNIA_SIGN HYGIEA HYPHEN HYPHENATION_POINT
HYPODIASTOLE HYSTERESIS_SYMBOL ICE_SKATE INCOMPLETE_INFINITY INCREASES_AS INCREMENT
INDIAN_RUPEE_SIGN INFINITY INFINITY_NEGATED_WITH_VERTICAL_BAR INFORMATION_SOURCE INSERTION_SYMBOL
INTEGRAL INTERCALATE INTERIOR_PRODUCT INTERLOCKED_FEMALE_AND_MALE_SIGN INTERROBANG INTERSECTION
JAPANESE_BANK_SYMBOL JOIN JUNO JUPITER KELVIN_SIGN KEYBOARD KIP_SIGN KRONOS L_B_BAR_SYMBOL LARI_SIGN
LAST_QUARTER_MOON LEO LIBRA LIGHTNING LINE_SEPARATOR LIRA_SIGN LIVRE_TOURNOIS_SIGN LOZENGE
LOZENGE_DIVIDED_BY_HORIZONTAL_RULE MALTESE_CROSS MANAT_SIGN MAP_SYMBOL_FOR_LIGHTHOUSE
MARRIAGE_SYMBOL MERCURY MIDLINE_HORIZONTAL_ELLIPSIS MILL_SIGN MINUS-OR-PLUS_SIGN MINY MODELS
MODIFIER_LETTER_CAPITAL_V MODULO_TWO_SUM MONOSTABLE_SYMBOL MOUNTAIN MULTIMAP MULTIPLICATION_X
MULTISET NABLA NAIRA_SIGN NAND NARROW_NO-BREAK_SPACE NATIONAL_DIGIT_SHAPES
NEGATED_DOUBLE_VERTICAL_BAR_DOUBLE_RIGHT_TURNSTILE NEPTUNE NEPTUNE_FORM_TWO NESSUS NEUTER
NEW_SHEQEL_SIGN NEXT_PAGE NO_ENTRY NOMINAL_DIGIT_SHAPES NON-BREAKING_HYPHEN NONFORKING NOR
NORDIC_MARK_SIGN NUMERO_SIGN OBLIQUE_HYPHEN OBSERVER_EYE_SYMBOL OHM_SIGN
OPEN-OUTLINED_RIGHTWARDS_ARROW OPHIUCHUS OPPOSITION OPTION_KEY OR_WITH_DOT_INSIDE ORIGINAL_OF
ORTHODOX_CROSS OUNCE_SIGN OVERLINE PALLAS PALM_BRANCH PARAGRAPH_SEPARATOR PARAGRAPHOS
PARAGRAPHUS_MARK PARTIAL_DIFFERENTIAL PARTIALLY-RECYCLED_PAPER_SYMBOL PASSED_SYMBOL PEACE_SYMBOL
PENCIL PENTAGRAM PERMANENT_PAPER_SIGN PERPENDICULAR PERPENDICULAR_WITH_S PERSON_WITH_BALL
PERSPECTIVE PESETA_SIGN PESO_SIGN PHOLUS PICK PINWHEEL_STAR PISCES PITCHFORK PITCHFORK_WITH_TEE_TOP
PLACE_OF_INTEREST_SIGN PLUTO POSEIDON POSITION_INDICATOR PRECEDES PRESCRIPTION_TAKE PREVIOUS_PAGE
PRIME PRINT_SCREEN_SYMBOL PROJECTIVE PROPERTY_LINE PROPORTION PROPORTIONAL_TO PROSERPINA
PUNCTUATION_SPACE PUNCTUS_ELEVATUS_MARK QUARTER_NOTE QUATERNION_INTEGRAL_OPERATOR
QUESTION_EXCLAMATION_MARK QUESTIONED_EQUAL_TO QUINCUNX RADICAL_SYMBOL_BOTTOM RADIOACTIVE_SIGN RAIN
RATIO RECYCLED_PAPER_SYMBOL RECYCLING_SYMBOL_FOR_GENERIC_MATERIALS REFERENCE_MARK RESPONSE
RIGHTHAND_INTERIOR_PRODUCT RUBLE_SIGN RULE-DELAYED RUPEE_SIGN S_IN_TRIANGLE SAGITTARIUS SAILBOAT
SALTIRE SATURN SCALES SCORPIUS SCRUPLE SECTOR SEDNA SEGMENT SEMIDIRECT_PRODUCT_WITH_BOTTOM_CLOSED
SEMISEXTILE SEPARATED_SYMBOL SERVICE_MARK SESQUIQUADRATE SET_MINUS SEXTILE SHAMROCK SHINTO_SHRINE
SHOULDERED_OPEN_BOX SHUFFLE_PRODUCT SINE_WAVE SIX-PER-EM_SPACE SIXTEEN_POINTED_ASTERISK SKIER
SKULL_AND_CROSSBONES SLOPE SMALL_VEE_WITH_UNDERBAR SMASH_PRODUCT SMILE SNOWFLAKE SNOWMAN
SNOWMAN_WITHOUT_SNOW SOCCER_BALL SOFTWARE-FUNCTION_SYMBOL SOLIDUS_WITH_OVERBAR SOM_SIGN
SOUND_RECORDING_COPYRIGHT SPARKLE SPARKLES SPESMILO_SIGN SPHERICAL_ANGLE
SQUAT_BLACK_RIGHTWARDS_ARROW STENOGRAPHIC_FULL_STOP STOPWATCH STRAIGHTNESS
STRESS_OUTLINED_WHITE_STAR STRICTLY_EQUIVALENT_TO SUCCEEDS SUN SUN_BEHIND_CLOUD SURFACE_INTEGRAL
SWUNG_DASH SYMMETRY TAPE_DRIVE TAURUS TENGE_SIGN TENT THEREFORE THERMODYNAMIC THIN_SPACE
THUNDER_CLOUD_AND_RAIN THUNDERSTORM TIE_OVER_INFINITY TIGHT_TRIFOLIATE_SNOWFLAKE TILDE_OPERATOR
TIMER_CLOCK TINY TOTAL_RUNOUT TRADE_MARK_SIGN TRANSPLUTO TRANSVERSAL_INTERSECTION
TRIANGLE-HEADED_RIGHTWARDS_ARROW TRIANGULAR_BULLET TRICOLON TRUE TRUE_LIGHT_MOON_ARTA TUGRIK_SIGN
TURKISH_LIRA_SIGN TWELVE_POINTED_BLACK_STAR TWO-EM_DASH UMBRELLA UNCERTAINTY_SIGN UNDERTIE
UNDO_SYMBOL UNION UNION_BESIDE_AND_JOINED_WITH_UNION UNITED_SYMBOL UNIVERSAL_RECYCLING_SYMBOL
UNMARRIED_PARTNERSHIP_SYMBOL URANUS VECTOR_OR_CROSS_PRODUCT VERSICLE VESTA VICTORY_HAND
VIEWDATA_SQUARE VIRGO VOLUME_INTEGRAL VULCANUS WARNING_SIGN WATCH WAVY_LINE
WEDGE-TAILED_RIGHTWARDS_ARROW WEST_SYRIAC_CROSS WHEEL_OF_DHARMA WHEELCHAIR_SYMBOL
WHITE-FEATHERED_RIGHTWARDS_ARROW WIGGLY_VERTICAL_LINE WON_SIGN WREATH_PRODUCT WRITING_HAND
X_IN_A_RECTANGLE_BOX XOR YIN_YANG ZEUS ACTIVATE_: INHIBIT_: ARABIC_FORM_SHAPING SYMMETRIC_SWAPPING
ALL_: AROUND-PROFILE EQUAL_TO ALMOST_EQUAL_: OR_EQUAL_TO TO TO_WITH_CIRCUMFLEX_ACCENT ANGLE_WITH_:
S_INSIDE UNDERBAR ANTICLOCKWISE_: CLOSED_CIRCLE_ARROW CONTOUR_INTEGRAL GAPPED_CIRCLE_ARROW
INTEGRATION OPEN_CIRCLE_ARROW TOP_SEMICIRCLE_ARROW ANTICLOCKWISE_TRIANGLE-HEADED_:
BOTTOM_U-SHAPED_ARROW LEFT_U-SHAPED_ARROW OPEN_CIRCLE_ARROW RIGHT_U-SHAPED_ARROW TOP_U-SHAPED_ARROW
APL_FUNCTIONAL_SYMBOL_: ALPHA ALPHA_UNDERBAR BACKSLASH_BAR COMMA_BAR DEL_DIAERESIS DEL_STILE
DEL_TILDE DELTA_STILE DELTA_UNDERBAR DIAMOND_UNDERBAR DOWN_CARET_TILDE DOWN_SHOE_STILE DOWN_TACK_JOT
DOWN_TACK_UNDERBAR DOWNWARDS_VANE EPSILON_UNDERBAR GREATER-THAN_DIAERESIS I-BEAM IOTA IOTA_UNDERBAR
JOT_DIAERESIS JOT_UNDERBAR LEFT_SHOE_STILE LEFTWARDS_VANE OMEGA OMEGA_UNDERBAR QUAD QUOTE_QUAD
QUOTE_UNDERBAR RHO RIGHTWARDS_VANE SEMICOLON_UNDERBAR SLASH_BAR SQUISH_QUAD STAR_DIAERESIS
STILE_TILDE TILDE_DIAERESIS UP_CARET_TILDE UP_SHOE_JOT UP_TACK_DIAERESIS UP_TACK_JOT UP_TACK_OVERBAR
UPWARDS_VANE ZILDE APL_FUNCTIONAL_SYMBOL_CIRCLE_: BACKSLASH DIAERESIS JOT STAR STILE UNDERBAR
APL_FUNCTIONAL_SYMBOL_QUAD_: BACKSLASH CIRCLE COLON DEL DELTA DIAMOND DIVIDE DOWN_CARET
DOWNWARDS_ARROW EQUAL GREATER-THAN JOT LEFTWARDS_ARROW LESS-THAN NOT_EQUAL QUESTION RIGHTWARDS_ARROW
SLASH UP_CARET UPWARDS_ARROW APPROXIMATELY_: BUT_NOT_ACTUALLY_EQUAL_TO EQUAL_OR_EQUAL_TO EQUAL_TO
EQUAL_TO_OR_THE_IMAGE_OF ARROW_POINTING_DOWNWARDS_THEN_CURVING_: LEFTWARDS RIGHTWARDS
ARROW_POINTING_RIGHTWARDS_THEN_CURVING_: ELEMENT_OF_OPENING_: DOWNWARDS UPWARDS
BACKSLANTED_SOUTH_ARROW_WITH_: HOOKED_TAIL HORIZONTAL_TAIL BALLOT_: BOX X BALLOT_BOX_WITH_: CHECK
LIGHT_X X BEAMED_: EIGHTH_NOTES SIXTEENTH_NOTES BENZENE_: RING RING_WITH_CIRCLE BIG_:
REVERSE_SOLIDUS SOLIDUS BLACK_: BOWTIE CENTRE_WHITE_STAR CIRCLE CIRCLE_FOR_RECORD CLUB_SUIT
CROSS_ON_SHIELD DIAMOND DOWNWARDS_EQUILATERAL_ARROWHEAD FLAG FLORETTE FOUR_POINTED_STAR HEART_SUIT
HEXAGON HORIZONTAL_ELLIPSE HOURGLASS LARGE_CIRCLE LARGE_SQUARE LEFT_LANE_MERGE LEFT_POINTING_INDEX
LOWER_LEFT_TRIANGLE LOWER_RIGHT_TRIANGLE LOZENGE MOON_LILITH NIB OCTAGON PARALLELOGRAM PENTAGON
QUESTION_MARK_ORNAMENT RECTANGLE RIGHT_POINTING_INDEX SAFETY_SCISSORS SCISSORS SHOGI_PIECE
SMILING_FACE SNOWMAN SPADE_SUIT SQUARE SQUARE_CENTRED SQUARE_FOR_STOP STAR SUN_WITH_RAYS TELEPHONE
TRUCK TWO-WAY_LEFT_WAY_TRAFFIC UNIVERSAL_RECYCLING_SYMBOL UPPER_LEFT_TRIANGLE UPPER_RIGHT_TRIANGLE
UPWARDS_EQUILATERAL_ARROWHEAD VERY_SMALL_SQUARE BLACK_CHESS_: WHITE_CHESS_: BISHOP KING KNIGHT PAWN
QUEEN ROOK BLACK_CIRCLE_WITH_: DOWN_ARROW TWO_WHITE_DOTS WHITE_DOT_RIGHT
BLACK_CURVED_DOWNWARDS_AND_: BLACK_CURVED_UPWARDS_AND_: REVERSE_TILDE_OPERATOR_ABOVE_:
LEFTWARDS_ARROW RIGHTWARDS_ARROW BLACK_CURVED_LEFTWARDS_AND_: BLACK_CURVED_RIGHTWARDS_AND_:
DOWNWARDS_ARROW UPWARDS_ARROW BLACK_DIAMOND_: CENTRED MINUS_WHITE_X ON_CROSS SUIT WITH_DOWN_ARROW
BLACK_DOWN-POINTING_: BLACK_UP-POINTING_: DOUBLE_TRIANGLE SMALL_TRIANGLE TRIANGLE BLACK_DRAUGHTS_:
WHITE_DRAUGHTS_: KING MAN BLACK_LEFT-POINTING_: DOUBLE_TRIANGLE DOUBLE_TRIANGLE_WITH_VERTICAL_BAR
POINTER SMALL_TRIANGLE TRIANGLE BLACK_LEFTWARDS_: BULLET EQUILATERAL_ARROWHEAD BLACK_MEDIUM_:
DIAMOND DOWN-POINTING_TRIANGLE DOWN-POINTING_TRIANGLE_CENTRED LEFT-POINTING_TRIANGLE
LEFT-POINTING_TRIANGLE_CENTRED LOZENGE RIGHT-POINTING_TRIANGLE RIGHT-POINTING_TRIANGLE_CENTRED
SMALL_SQUARE SQUARE UP-POINTING_TRIANGLE UP-POINTING_TRIANGLE_CENTRED BLACK_RIGHT-POINTING_:
DOUBLE_TRIANGLE DOUBLE_TRIANGLE_WITH_VERTICAL_BAR PENTAGON POINTER SMALL_TRIANGLE TRIANGLE
TRIANGLE_WITH_DOUBLE_VERTICAL_BAR BLACK_RIGHTWARDS_: ARROW ARROWHEAD BULLET EQUILATERAL_ARROWHEAD
BLACK_SMALL_: DIAMOND LOZENGE SQUARE STAR BLACK_VERTICAL_: ELLIPSE RECTANGLE BLACK-FEATHERED_:
HEAVY_BLACK-FEATHERED_: NORTH_EAST_ARROW RIGHTWARDS_ARROW SOUTH_EAST_ARROW BLACK-LETTER_CAPITAL_: C
H I R Z BOTTOM_: ARC_ANTICLOCKWISE_ARROW CURLY_BRACKET PARENTHESIS SQUARE_BRACKET
SQUARE_BRACKET_OVER_TOP_SQUARE_BRACKET TORTOISE_SHELL_BRACKET BOTTOM_HALF_: BLACK_CIRCLE INTEGRAL
LEFT_PARENTHESIS RIGHT_PARENTHESIS BOTTOM_LEFT_: BOTTOM_RIGHT_: TOP_LEFT_: TOP_RIGHT_: CORNER CROP
HALF_BRACKET BOWTIE_WITH_: DOWN-POINTING_TRIANGLE_WITH_: TIMES_WITH_: UP-POINTING_TRIANGLE_WITH_:
LEFT_HALF_BLACK RIGHT_HALF_BLACK BOX_DRAWINGS_: LEFT_DOWN_HEAVY_AND_RIGHT_UP_LIGHT
LEFT_UP_HEAVY_AND_RIGHT_DOWN_LIGHT RIGHT_DOWN_HEAVY_AND_LEFT_UP_LIGHT
RIGHT_UP_HEAVY_AND_LEFT_DOWN_LIGHT BOX_DRAWINGS_DOUBLE_: DOWN_AND_HORIZONTAL DOWN_AND_LEFT
DOWN_AND_RIGHT HORIZONTAL UP_AND_HORIZONTAL UP_AND_LEFT UP_AND_RIGHT VERTICAL
BOX_DRAWINGS_DOUBLE_VERTICAL_AND_: BOX_DRAWINGS_HEAVY_VERTICAL_AND_:
BOX_DRAWINGS_LIGHT_VERTICAL_AND_: HORIZONTAL LEFT RIGHT BOX_DRAWINGS_DOWN_DOUBLE_AND_:
BOX_DRAWINGS_UP_DOUBLE_AND_: BOX_DRAWINGS_VERTICAL_DOUBLE_AND_: HORIZONTAL_SINGLE LEFT_SINGLE
RIGHT_SINGLE BOX_DRAWINGS_DOWN_HEAVY_AND_: HORIZONTAL_LIGHT LEFT_LIGHT LEFT_UP_LIGHT RIGHT_LIGHT
RIGHT_UP_LIGHT UP_HORIZONTAL_LIGHT BOX_DRAWINGS_DOWN_LIGHT_AND_: HORIZONTAL_HEAVY LEFT_HEAVY
LEFT_UP_HEAVY RIGHT_HEAVY RIGHT_UP_HEAVY UP_HORIZONTAL_HEAVY BOX_DRAWINGS_DOWN_SINGLE_AND_:
BOX_DRAWINGS_UP_SINGLE_AND_: BOX_DRAWINGS_VERTICAL_SINGLE_AND_: HORIZONTAL_DOUBLE LEFT_DOUBLE
RIGHT_DOUBLE BOX_DRAWINGS_HEAVY_: DOUBLE_DASH_HORIZONTAL DOUBLE_DASH_VERTICAL DOWN
DOWN_AND_HORIZONTAL DOWN_AND_LEFT DOWN_AND_RIGHT HORIZONTAL LEFT LEFT_AND_LIGHT_RIGHT
QUADRUPLE_DASH_HORIZONTAL QUADRUPLE_DASH_VERTICAL RIGHT TRIPLE_DASH_HORIZONTAL TRIPLE_DASH_VERTICAL
UP UP_AND_HORIZONTAL UP_AND_LEFT UP_AND_LIGHT_DOWN UP_AND_RIGHT VERTICAL
BOX_DRAWINGS_LEFT_HEAVY_AND_RIGHT_: BOX_DRAWINGS_RIGHT_HEAVY_AND_LEFT_: DOWN_LIGHT UP_LIGHT
VERTICAL_LIGHT BOX_DRAWINGS_LEFT_LIGHT_AND_RIGHT_: BOX_DRAWINGS_RIGHT_LIGHT_AND_LEFT_: DOWN_HEAVY
UP_HEAVY VERTICAL_HEAVY BOX_DRAWINGS_LIGHT_: ARC_DOWN_AND_LEFT ARC_DOWN_AND_RIGHT ARC_UP_AND_LEFT
ARC_UP_AND_RIGHT DIAGONAL_CROSS DIAGONAL_UPPER_LEFT_TO_LOWER_RIGHT
DIAGONAL_UPPER_RIGHT_TO_LOWER_LEFT DOUBLE_DASH_HORIZONTAL DOUBLE_DASH_VERTICAL DOWN
DOWN_AND_HORIZONTAL DOWN_AND_LEFT DOWN_AND_RIGHT HORIZONTAL LEFT LEFT_AND_HEAVY_RIGHT
QUADRUPLE_DASH_HORIZONTAL QUADRUPLE_DASH_VERTICAL RIGHT TRIPLE_DASH_HORIZONTAL TRIPLE_DASH_VERTICAL
UP UP_AND_HEAVY_DOWN UP_AND_HORIZONTAL UP_AND_LEFT UP_AND_RIGHT VERTICAL BOX_DRAWINGS_UP_HEAVY_AND_:
DOWN_HORIZONTAL_LIGHT HORIZONTAL_LIGHT LEFT_DOWN_LIGHT LEFT_LIGHT RIGHT_DOWN_LIGHT RIGHT_LIGHT
BOX_DRAWINGS_UP_LIGHT_AND_: DOWN_HORIZONTAL_HEAVY HORIZONTAL_HEAVY LEFT_DOWN_HEAVY LEFT_HEAVY
RIGHT_DOWN_HEAVY RIGHT_HEAVY BOX_DRAWINGS_VERTICAL_HEAVY_AND_: HORIZONTAL_LIGHT LEFT_LIGHT
RIGHT_LIGHT BOX_DRAWINGS_VERTICAL_LIGHT_AND_: HORIZONTAL_HEAVY LEFT_HEAVY RIGHT_HEAVY
BRAILLE_PATTERN_DOTS-: 1 12 123 1234 12345 123456 1234567 12345678 1234568 123457 1234578 123458
12346 123467 1234678 123468 12347 123478 12348 1235 12356 123567 1235678 123568 12357 123578 12358
1236 12367 123678 12368 1237 12378 1238 124 1245 12456 124567 1245678 124568 12457 124578 12458 1246
12467 124678 12468 1247 12478 1248 125 1256 12567 125678 12568 1257 12578 1258 126 1267 12678 1268
127 1278 128 13 134 1345 13456 134567 1345678 134568 13457 134578 13458 1346 13467 134678 13468 1347
13478 1348 135 1356 13567 135678 13568 1357 13578 1358 136 1367 13678 1368 137 1378 138 14 145 1456
14567 145678 14568 1457 14578 1458 146 1467 14678 1468 147 1478 148 15 156 1567 15678 1568 157 1578
158 16 167 1678 168 17 178 18 2 23 234 2345 23456 234567 2345678 234568 23457 234578 23458 2346
23467 234678 23468 2347 23478 2348 235 2356 23567 235678 23568 2357 23578 2358 236 2367 23678 2368
237 2378 238 24 245 2456 24567 245678 24568 2457 24578 2458 246 2467 24678 2468 247 2478 248 25 256
2567 25678 2568 257 2578 258 26 267 2678 268 27 278 28 3 34 345 3456 34567 345678 34568 3457 34578
3458 346 3467 34678 3468 347 3478 348 35 356 3567 35678 3568 357 3578 358 36 367 3678 368 37 378 38
4 45 456 4567 45678 4568 457 4578 458 46 467 4678 468 47 478 48 5 56 567 5678 568 57 578 58 6 67 678
68 7 78 8 CIRCLE_WITH_: ALL_BUT_UPPER_LEFT_QUADRANT_BLACK HORIZONTAL_BAR LEFT_HALF_BLACK
LOWER_HALF_BLACK RIGHT_HALF_BLACK SMALL_CIRCLE_TO_THE_RIGHT SUPERIMPOSED_X
TWO_HORIZONTAL_STROKES_TO_THE_RIGHT UPPER_HALF_BLACK UPPER_RIGHT_QUADRANT_BLACK VERTICAL_FILL
CIRCLED_: ANTICLOCKWISE-ROTATED_DIVISION_SIGN ASTERISK_OPERATOR BOLD_X BULLET CROSSING_LANES DASH
DIVISION_SIGN DIVISION_SLASH DOT_OPERATOR EQUALS GREATER-THAN HEAVY_WHITE_RIGHTWARDS_ARROW
HORIZONTAL_BAR_WITH_NOTCH LESS-THAN MINUS MULTIPLICATION_SIGN_WITH_CIRCUMFLEX_ACCENT
OPEN_CENTRE_EIGHT_POINTED_STAR PARALLEL PERPENDICULAR PLUS REVERSE_SOLIDUS RING_OPERATOR TIMES
TRIANGLE_DOWN VERTICAL_BAR WHITE_BULLET WHITE_STAR X CIRCLED_DIGIT_: EIGHT FIVE FOUR NINE ONE SEVEN
SIX THREE TWO ZERO CIRCLED_LATIN_CAPITAL_LETTER_: CIRCLED_LATIN_SMALL_LETTER_:
PARENTHESIZED_LATIN_SMALL_LETTER_: A B C D E F G H I J K L M N O P Q R S T U V W X Y Z
CIRCLED_NUMBER_: PARENTHESIZED_NUMBER_: EIGHTEEN ELEVEN FIFTEEN FOURTEEN NINETEEN SEVENTEEN SIXTEEN
TEN THIRTEEN TWELVE TWENTY CLOCKWISE_: CLOSED_CIRCLE_ARROW CONTOUR_INTEGRAL GAPPED_CIRCLE_ARROW
INTEGRAL OPEN_CIRCLE_ARROW TOP_SEMICIRCLE_ARROW TRIANGLE-HEADED_OPEN_CIRCLE_ARROW CLOSED_:
INTERSECTION_WITH_SERIFS SUBSET SUBSET_OR_EQUAL_TO SUPERSET SUPERSET_OR_EQUAL_TO CLOSED_UNION_WITH_:
SERIFS SERIFS_AND_SMASH_PRODUCT COLON_: EQUALS SIGN COMBINING_: ANNUITY_SYMBOL ASTERISK_ABOVE
CLOCKWISE_ARROW_ABOVE CLOCKWISE_RING_OVERLAY DOUBLE_VERTICAL_STROKE_OVERLAY FOUR_DOTS_ABOVE
LEFTWARDS_ARROW_OVERLAY LEFTWARDS_HARPOON_WITH_BARB_DOWNWARDS LONG_DOUBLE_SOLIDUS_OVERLAY
LONG_VERTICAL_LINE_OVERLAY REVERSE_SOLIDUS_OVERLAY RIGHT_ARROW_ABOVE RIGHT_ARROW_BELOW
RIGHT_HARPOON_ABOVE RIGHTWARDS_HARPOON_WITH_BARB_DOWNWARDS RING_OVERLAY SHORT_VERTICAL_LINE_OVERLAY
THREE_DOTS_ABOVE TRIPLE_UNDERDOT WIDE_BRIDGE_ABOVE COMBINING_ANTICLOCKWISE_: ARROW_ABOVE
RING_OVERLAY COMBINING_CYRILLIC_LETTER_: A BE BIG_YUS CHE DE DJERV EL EM EN ER ES ES-TE FITA GHE HA
IE IOTIFIED_A IOTIFIED_BIG_YUS KA LITTLE_YUS MONOGRAPH_UK O PE SHA SHCHA TE TSE VE YAT YU ZE ZHE
COMBINING_ENCLOSING_: CIRCLE CIRCLE_BACKSLASH DIAMOND KEYCAP SCREEN SQUARE UPWARD_POINTING_TRIANGLE
COMBINING_LEFT_: ARROW_ABOVE ARROW_BELOW HARPOON_ABOVE RIGHT_ARROW_ABOVE CONTAINS_AS_: MEMBER
NORMAL_SUBGROUP NORMAL_SUBGROUP_OR_EQUAL_TO CONTAINS_WITH_: LONG_HORIZONTAL_STROKE OVERBAR
VERTICAL_BAR_AT_END_OF_HORIZONTAL_STROKE COPTIC_: FRACTION_ONE_HALF FULL_STOP MORPHOLOGICAL_DIVIDER
COPTIC_CAPITAL_LETTER_: COPTIC_SMALL_LETTER_: AKHMIMIC_KHEI ALFA BOHAIRIC_KHEI CROSSED_SHEI DALDA
EIE FI GAMMA HATE IAUDA KAPA KHI KSI L-SHAPED_HA LAULA MI NI O OOU PI PSI RO SAMPI SIMA SOU TAU
THETHE UA VIDA ZATA COPTIC_CAPITAL_LETTER_CRYPTOGRAMMIC_: COPTIC_SMALL_LETTER_CRYPTOGRAMMIC_: EIE
GANGIA NI SHEI COPTIC_CAPITAL_LETTER_DIALECT-P_: COPTIC_SMALL_LETTER_DIALECT-P_: ALEF HORI KAPA NI
COPTIC_CAPITAL_LETTER_OLD_COPTIC_: COPTIC_SMALL_LETTER_OLD_COPTIC_: AIN DJA ESH GANGIA HA HAT HEI
HORI OOU SHEI SHIMA COPTIC_CAPITAL_LETTER_OLD_NUBIAN_: COPTIC_SMALL_LETTER_OLD_NUBIAN_: NGI NYI
SHIMA WAU COPTIC_COMBINING_: NI_ABOVE SPIRITUS_ASPER SPIRITUS_LENIS COPTIC_OLD_NUBIAN_:
DIRECT_QUESTION_MARK FULL_STOP INDIRECT_QUESTION_MARK VERSE_DIVIDER COPTIC_SYMBOL_: KAI KHI_RO MI_RO
PI_RO SHIMA_SIMA STAUROS TAU_RO CROSS_: MARK OF_JERUSALEM OF_LORRAINE CROSS_PATTY_WITH_:
LEFT_CROSSBAR RIGHT_CROSSBAR CURLY_: BRACKET_EXTENSION LOGICAL_AND LOGICAL_OR LOOP DAGGER_WITH_:
LEFT_GUARD RIGHT_GUARD DECIMAL_: EXPONENT_SYMBOL SEPARATOR_KEY_SYMBOL DEGREE_: CELSIUS FAHRENHEIT
DENTISTRY_SYMBOL_LIGHT_: DOWN_AND_HORIZONTAL UP_AND_HORIZONTAL
DENTISTRY_SYMBOL_LIGHT_DOWN_AND_HORIZONTAL_WITH_: DENTISTRY_SYMBOL_LIGHT_UP_AND_HORIZONTAL_WITH_:
CIRCLE TRIANGLE WAVE DENTISTRY_SYMBOL_LIGHT_VERTICAL_: AND_BOTTOM_LEFT AND_BOTTOM_RIGHT AND_TOP_LEFT
AND_TOP_RIGHT AND_WAVE WITH_CIRCLE WITH_TRIANGLE DIAMOND_WITH_: BOTTOM_HALF_BLACK LEFT_HALF_BLACK
RIGHT_HALF_BLACK TOP_HALF_BLACK DIE_FACE-: 1 2 3 4 5 6 DIGIT_: EIGHT_FULL_STOP FIVE_FULL_STOP
FOUR_FULL_STOP NINE_FULL_STOP ONE_FULL_STOP SEVEN_FULL_STOP SIX_FULL_STOP THREE_FULL_STOP
TWO_FULL_STOP DIGRAM_FOR_GREATER_: DIGRAM_FOR_LESSER_: MONOGRAM_FOR_: YANG YIN
DINGBAT_CIRCLED_SANS-SERIF_DIGIT_: DINGBAT_NEGATIVE_CIRCLED_DIGIT_:
DINGBAT_NEGATIVE_CIRCLED_SANS-SERIF_DIGIT_: DOUBLE_CIRCLED_DIGIT_: PARENTHESIZED_DIGIT_: EIGHT FIVE
FOUR NINE ONE SEVEN SIX THREE TWO DINGBAT_NEGATIVE_CIRCLED_: NUMBER_TEN SANS-SERIF_NUMBER_TEN
DIVISION_: SLASH TIMES DOES_NOT_: DIVIDE DIVIDE_WITH_REVERSED_NEGATION_SLASH FORCE PRECEDE
PRECEDE_OR_EQUAL PROVE SUCCEED SUCCEED_OR_EQUAL DOES_NOT_CONTAIN_AS_: MEMBER NORMAL_SUBGROUP
NORMAL_SUBGROUP_OR_EQUAL DOT_: MINUS OPERATOR PLUS DOTTED_: CIRCLE CROSS FENCE OBELOS
RIGHT-POINTING_ANGLE SOLIDUS SQUARE TRANSPOSITION_MARKER DOUBLE_: CIRCLED_NUMBER_TEN COLON_EQUAL
CURLY_LOOP DAGGER DOWN_TACK EXCLAMATION_MARK HIGH-REVERSED-9_QUOTATION_MARK HYPHEN INTEGRAL
INTERSECTION LEFT_ARC_GREATER-THAN_BRACKET LOGICAL_AND LOGICAL_OR LOW_LINE LOW-9_QUOTATION_MARK
LOW-REVERSED-9_QUOTATION_MARK OBLIQUE_HYPHEN PLUS PRECEDES PRIME QUESTION_MARK
RIGHT_ARC_LESS-THAN_BRACKET SOLIDUS_OPERATOR SQUARE_INTERSECTION SQUARE_UNION STACKED_COMMA
STROKE_NOT_SIGN SUBSET SUCCEEDS SUPERSET SUSPENSION_MARK UNION UP_TACK DOUBLE_NESTED_: GREATER-THAN
LESS-THAN LESS-THAN_WITH_UNDERBAR DOUBLE_VERTICAL_: BAR BAR_DOUBLE_LEFT_TURNSTILE
BAR_DOUBLE_RIGHT_TURNSTILE BAR_LEFT_TURNSTILE LINE DOUBLE-LINE_EQUAL_TO_OR_: MUCH_: VERY_MUCH_:
GREATER-THAN LESS-THAN DOUBLE-LINE_SLANTED_: EQUAL_TO_OR_GREATER-THAN EQUAL_TO_OR_LESS-THAN
GREATER-THAN_OR_EQUAL_TO LESS-THAN_OR_EQUAL_TO DOUBLE-STRUCK_: ITALIC_CAPITAL_D N-ARY_SUMMATION
SMALL_GAMMA SMALL_PI DOUBLE-STRUCK_CAPITAL_: C GAMMA H N P PI Q R Z DOUBLE-STRUCK_ITALIC_SMALL_: D E
I J DOUBLED_: FEMALE_SIGN MALE_SIGN SYMBOL DOWN_: ARROWHEAD FISH_TAIL RIGHT_DIAGONAL_ELLIPSIS TACK
TACK_WITH_CIRCLE_BELOW DOWNWARDS_: ANCORA ARROW ARROW_FROM_BAR ARROW_LEFTWARDS_OF_UPWARDS_ARROW
ARROW_TO_BAR BLACK_ARROW BLACK_CIRCLED_WHITE_ARROW DASHED_ARROW DOUBLE_ARROW PAIRED_ARROWS
QUADRUPLE_ARROW TRIPLE_ARROW TWO_HEADED_ARROW TWO-HEADED_ARROW_WITH_TRIANGLE_ARROWHEADS WHITE_ARROW
ZIGZAG_ARROW DOWNWARDS_ARROW_WITH_: CORNER_LEFTWARDS DOUBLE_STROKE HORIZONTAL_STROKE TIP_LEFTWARDS
TIP_RIGHTWARDS DOWNWARDS_HARPOON_WITH_BARB_: UPWARDS_HARPOON_WITH_BARB_:
LEFT_BESIDE_DOWNWARDS_HARPOON_WITH_BARB_RIGHT LEFT_BESIDE_UPWARDS_HARPOON_WITH_BARB_RIGHT
LEFT_FROM_BAR LEFT_TO_BAR LEFTWARDS RIGHT_FROM_BAR RIGHT_TO_BAR RIGHTWARDS
DOWNWARDS_TRIANGLE-HEADED_: ARROW ARROW_LEFTWARDS_OF_UPWARDS_TRIANGLE-HEADED_ARROW ARROW_TO_BAR
ARROW_WITH_DOUBLE_HORIZONTAL_STROKE ARROW_WITH_LONG_TIP_LEFTWARDS ARROW_WITH_LONG_TIP_RIGHTWARDS
DASHED_ARROW PAIRED_ARROWS ZIGZAG_ARROW EIGHT_: PETALLED_OUTLINED_BLACK_FLORETTE SPOKED_ASTERISK
TEARDROP-SPOKED_PROPELLER_ASTERISK EIGHT_POINTED_: BLACK_STAR PINWHEEL_STAR RECTILINEAR_BLACK_STAR
ELEMENT_OF_WITH_: DOT_ABOVE LONG_HORIZONTAL_STROKE OVERBAR TWO_HORIZONTAL_STROKES UNDERBAR
VERTICAL_BAR_AT_END_OF_HORIZONTAL_STROKE EM_: EN_: DASH QUAD SPACE EMPTY_SET_WITH_: LEFT_ARROW_ABOVE
OVERBAR RIGHT_ARROW_ABOVE SMALL_CIRCLE_ABOVE EQUAL_: AND_PARALLEL_TO TO_BY_DEFINITION EQUAL_TO_OR_:
GREATER-THAN LESS-THAN PRECEDES SUCCEEDS EQUALS_: COLON WITH_ASTERISK EQUALS_SIGN_ABOVE_:
LEFTWARDS_ARROW PLUS_SIGN RIGHTWARDS_ARROW TILDE_OPERATOR EQUALS_SIGN_AND_SLANTED_: PARALLEL
PARALLEL_WITH_TILDE_ABOVE EQUALS_SIGN_WITH_: BUMPY_ABOVE DOT_BELOW INFINITY_BELOW
TWO_DOTS_ABOVE_AND_TWO_DOTS_BELOW EQUIVALENT_: TO WITH_FOUR_DOTS_ABOVE ERASE_TO_THE_: NEWLINE_:
QUADRANT_LOWER_: QUADRANT_UPPER_LEFT_AND_UPPER_RIGHT_AND_LOWER_: THREE_LINES_CONVERGING_:
WAVE_ARROW_POINTING_DIRECTLY_: LEFT RIGHT ERIS_FORM_: ONE TWO ERROR-BARRED_BLACK_:
ERROR-BARRED_WHITE_: CIRCLE DIAMOND SQUARE ETHIOPIC_SYLLABLE_: BOA CCA CCAA CCE CCEE CCHA CCHAA CCHE
CCHEE CCHI CCHO CCHU CCI CCO CCU CHOA COA DDOA DOA GGWA GGWE GGWEE GGWI GLOTTAL_OA GYA GYAA GYE GYEE
GYI GYO GYU JOA KYA KYAA KYE KYEE KYI KYO KYU LOA MOA NOA NYOA PHOA POA QYA QYAA QYE QYEE QYI QYO
QYU ROA SHOA SOA SSA SSAA SSE SSEE SSI SSO SSU THOA TOA XYA XYAA XYE XYEE XYI XYO XYU ZOA ZZA ZZAA
ZZE ZZEE ZZI ZZO ZZU FALLING_DIAGONAL_: CROSSING_NORTH_EAST_ARROW CROSSING_RISING_DIAGONAL
IN_WHITE_CIRCLE_IN_BLACK_SQUARE FIGURE_: DASH SPACE FIRST_: QUARTER_MOON STRONG_ISOLATE FIVE_DOT_:
MARK PUNCTUATION FOUR_: BALLOON-SPOKED_ASTERISK CLUB-SPOKED_ASTERISK
CORNER_ARROWS_CIRCLING_ANTICLOCKWISE DOT_MARK DOT_PUNCTUATION TEARDROP-SPOKED_ASTERISK FRACTION_:
NUMERATOR_ONE SLASH FULL_: BLOCK OUTER_JOIN GEAR_: WITH_HANDLES WITHOUT_HUB GEOMETRICALLY_: EQUAL_TO
EQUIVALENT_TO GEORGIAN_SMALL_LETTER_: AEN AN BAN CAN CHAR CHIN CIL DON EN GAN GHAN HAE HAR HE HIE
HOE IN JHAN JIL KAN KHAR LAS MAN NAR ON PAR PHAR QAR RAE SAN SHIN TAN TAR UN VIN WE XAN YN ZEN ZHAR
GLAGOLITIC_CAPITAL_LETTER_: GLAGOLITIC_SMALL_LETTER_: AZU BIG_YUS BUKY CAUDATE_CHRIVI CHRIVI DJERVI
DOBRO DZELO FITA FRITU GLAGOLI HERU I INITIAL_IZHE IOTATED_BIG_YUS IOTATED_SMALL_YUS IZHE IZHITSA
KAKO LATINATE_MYSLITE LJUDIJE MYSLITE NASHI ONU OTU PE POKOJI RITSI SHA SHTA SHTAPIC SLOVO SMALL_YUS
SMALL_YUS_WITH_TAIL SPIDERY_HA TROKUTASTI_A TSI TVRIDO UKU VEDE YATI YERI YERU YESTU YO YU ZEMLJA
ZHIVETE GREATER-THAN_: AND_NOT_APPROXIMATE AND_SINGLE-LINE_NOT_EQUAL_TO BESIDE_LESS-THAN
BUT_NOT_EQUAL_TO BUT_NOT_EQUIVALENT_TO CLOSED_BY_CURVE CLOSED_BY_CURVE_ABOVE_SLANTED_EQUAL
EQUAL_TO_OR_LESS-THAN OR_APPROXIMATE OR_EQUAL_TO OR_EQUIVALENT_TO OR_LESS-THAN OR_SLANTED_EQUAL_TO
OVER_EQUAL_TO OVERLAPPING_LESS-THAN WITH_CIRCLE_INSIDE WITH_DOT WITH_QUESTION_MARK_ABOVE
GREATER-THAN_ABOVE_: DOUBLE-LINE_EQUAL_ABOVE_LESS-THAN LESS-THAN_ABOVE_DOUBLE-LINE_EQUAL
RIGHTWARDS_ARROW SIMILAR_ABOVE_LESS-THAN SIMILAR_OR_EQUAL
SLANTED_EQUAL_ABOVE_LESS-THAN_ABOVE_SLANTED_EQUAL GREATER-THAN_OR_SLANTED_EQUAL_TO_WITH_DOT_: ABOVE
ABOVE_LEFT INSIDE HAMMER_AND_: PICK SICKLE HEAVY_: ASTERISK BALLOT_X BLACK_HEART CHECK_MARK
CHEVRON_SNOWFLAKE CIRCLE CIRCLED_SALTIRE CONCAVE-POINTED_BLACK_RIGHTWARDS_ARROW
DASHED_TRIANGLE-HEADED_RIGHTWARDS_ARROW DIVISION_SIGN DOUBLE_COMMA_QUOTATION_MARK_ORNAMENT
DOUBLE_TURNED_COMMA_QUOTATION_MARK_ORNAMENT EIGHT_POINTED_RECTILINEAR_BLACK_STAR
EIGHT_TEARDROP-SPOKED_PROPELLER_ASTERISK FOUR_BALLOON-SPOKED_ASTERISK GREEK_CROSS
HEART_EXCLAMATION_MARK_ORNAMENT LARGE_CIRCLE LOW_DOUBLE_COMMA_QUOTATION_MARK_ORNAMENT
LOW_SINGLE_COMMA_QUOTATION_MARK_ORNAMENT LOWER_RIGHT-SHADOWED_WHITE_RIGHTWARDS_ARROW MINUS_SIGN
MULTIPLICATION_X NORTH_EAST_ARROW OPEN_CENTRE_CROSS OUTLINED_BLACK_STAR OVAL_WITH_OVAL_INSIDE
PLUS_SIGN RIGHTWARDS_ARROW ROUND-TIPPED_RIGHTWARDS_ARROW SINGLE_COMMA_QUOTATION_MARK_ORNAMENT
SINGLE_TURNED_COMMA_QUOTATION_MARK_ORNAMENT SOUTH_EAST_ARROW SPARKLE
TRIANGLE-HEADED_RIGHTWARDS_ARROW UPPER_RIGHT-SHADOWED_WHITE_RIGHTWARDS_ARROW VERTICAL_BAR
WEDGE-TAILED_RIGHTWARDS_ARROW WHITE_DOWN-POINTING_TRIANGLE WIDE-HEADED_RIGHTWARDS_ARROW
HEAVY_BLACK_CURVED_: DOWNWARDS_AND_RIGHTWARDS_ARROW UPWARDS_AND_RIGHTWARDS_ARROW HEAVY_CIRCLE_WITH_:
CIRCLE_INSIDE STROKE_AND_TWO_DOTS_ABOVE HEAVY_EXCLAMATION_MARK_: ORNAMENT SYMBOL
HEAVY_LEFT-POINTING_ANGLE_: HEAVY_RIGHT-POINTING_ANGLE_: BRACKET_ORNAMENT QUOTATION_MARK_ORNAMENT
HEAVY_TEARDROP-: SHANKED_RIGHTWARDS_ARROW SPOKED_ASTERISK SPOKED_PINWHEEL_ASTERISK HORIZONTAL_: BAR
BLACK_HEXAGON BLACK_OCTAGON ELLIPSIS LINE_EXTENSION MALE_WITH_STROKE_SIGN TAB_KEY
HORIZONTAL_SCAN_LINE-: 1 3 7 9 HOT_: BEVERAGE SPRINGS HYPHEN_: BULLET WITH_DIAERESIS IDENTICAL_: TO
TO_AND_SLANTED_PARALLEL WITH_DOT_ABOVE IMAGE_: OF OF_OR_APPROXIMATELY_EQUAL_TO INTEGRAL_:
AROUND_A_POINT_OPERATOR AVERAGE_WITH_SLASH EXTENSION INTEGRAL_WITH_: DOUBLE_STROKE INTERSECTION
LEFTWARDS_ARROW_WITH_HOOK OVERBAR TIMES_SIGN UNDERBAR UNION INTERSECTION_: ABOVE_BAR_ABOVE_UNION
ABOVE_UNION BESIDE_AND_JOINED_WITH_INTERSECTION WITH_DOT WITH_LOGICAL_AND WITH_OVERBAR INVERSE_:
BULLET WHITE_CIRCLE INVERTED_: INTERROBANG LAZY_S LOW_KAVYKA LOW_KAVYKA_WITH_KAVYKA_ABOVE OHM_SIGN
PENTAGRAM UNDERTIE INVISIBLE_: PLUS SEPARATOR TIMES LARGE_: CIRCLE DOWN_TACK LEFT_TRIANGLE_OPERATOR
TRIPLE_VERTICAL_BAR_OPERATOR UP_TACK LARGER_: SMALLER_: THAN THAN_OR_EQUAL_TO LATIN_: CROSS
LETTER_SMALL_CAPITAL_TURNED_E LATIN_CAPITAL_LETTER_: ALPHA H_WITH_DESCENDER HALF_H K_WITH_DESCENDER
L_WITH_DOUBLE_BAR L_WITH_MIDDLE_TILDE M_WITH_HOOK P_WITH_STROKE R_WITH_TAIL S_WITH_SWASH_TAIL
TURNED_A TURNED_ALPHA W_WITH_HOOK Z_WITH_DESCENDER Z_WITH_SWASH_TAIL LATIN_SMALL_LETTER_:
A_WITH_STROKE E_WITH_NOTCH H_WITH_DESCENDER HALF_H K_WITH_DESCENDER L_WITH_DOUBLE_BAR
O_WITH_LOW_RING_INSIDE REVERSED_C T_WITH_DIAGONAL_STROKE TAILLESS_PHI TURNED_R_WITH_TAIL V_WITH_CURL
V_WITH_RIGHT_HOOK W_WITH_HOOK Z_WITH_DESCENDER LATIN_SUBSCRIPT_SMALL_LETTER_: A E H J K L M N O P S
SCHWA T X LEFT_: ANGLE_BRACKET_WITH_DOT ARC_LESS-THAN_BRACKET BLACK_TORTOISE_SHELL_BRACKET CEILING
CLOSED_ENTRY DOTTED_SUBSTITUTION_BRACKET FISH_TAIL FIVE_EIGHTHS_BLOCK FLOOR HALF_BLOCK
LOW_PARAPHRASE_BRACKET MULTIMAP NORMAL_FACTOR_SEMIDIRECT_PRODUCT ONE_EIGHTH_BLOCK ONE_QUARTER_BLOCK
OUTER_JOIN RAISED_OMISSION_BRACKET S-SHAPED_BAG_DELIMITER SEMIDIRECT_PRODUCT SEVEN_EIGHTHS_BLOCK
SIDEWAYS_U_BRACKET SINGLE_QUOTATION_MARK SUBSTITUTION_BRACKET TACK THREE_EIGHTHS_BLOCK
THREE_QUARTERS_BLOCK TRANSPOSITION_BRACKET TRIANGLE_BESIDE_VERTICAL_BAR WHITE_CURLY_BRACKET
WHITE_PARENTHESIS WIGGLY_FENCE LEFT_AND_RIGHT_: DOUBLE_TURNSTILE TACK LEFT_ARROW_WITH_:
RIGHT_ARROW_WITH_: CIRCLED_PLUS SMALL_CIRCLE LEFT_BARB_DOWN_RIGHT_BARB_: LEFT_BARB_UP_RIGHT_BARB_:
DOWN_HARPOON UP_HARPOON LEFT_CURLY_BRACKET_: RIGHT_CURLY_BRACKET_: LOWER_HOOK MIDDLE_PIECE
UPPER_HOOK LEFT_DOUBLE_: PARENTHESIS QUOTATION_MARK WIGGLY_FENCE LEFT_HALF_BLACK_:
RIGHT_HALF_BLACK_: CIRCLE STAR LEFT_PARENTHESIS_: RIGHT_PARENTHESIS_: EXTENSION LOWER_HOOK
UPPER_HOOK LEFT_RIGHT_: ARROW ARROW_THROUGH_SMALL_CIRCLE BLACK_ARROW DOUBLE_ARROW OPEN-HEADED_ARROW
TRIANGLE-HEADED_ARROW WAVE_ARROW WHITE_ARROW LEFT_RIGHT_ARROW_WITH_: DOUBLE_VERTICAL_STROKE STROKE
VERTICAL_STROKE LEFT_RIGHT_DOUBLE_ARROW_WITH_: STROKE VERTICAL_STROKE LEFT_SQUARE_BRACKET_:
RIGHT_SQUARE_BRACKET_: EXTENSION LOWER_CORNER UPPER_CORNER LEFT_SQUARE_BRACKET_WITH_:
RIGHT_SQUARE_BRACKET_WITH_: DOUBLE_STROKE QUILL STROKE TICK_IN_BOTTOM_CORNER TICK_IN_TOP_CORNER
UNDERBAR LEFT_VERTICAL_: RIGHT_VERTICAL_: BAR_WITH_QUILL BOX_LINE LEFT-: HANDED_INTERLACED_PENTAGRAM
SHADED_WHITE_RIGHTWARDS_ARROW SIDE_ARC_ANTICLOCKWISE_ARROW LEFT-POINTING_: RIGHT-POINTING_:
ANGLE_BRACKET CURVED_ANGLE_BRACKET LEFT-TO-RIGHT_: RIGHT-TO-LEFT_: EMBEDDING ISOLATE MARK OVERRIDE
LEFTWARDS_: ARROW ARROW-TAIL BLACK_ARROW BLACK_CIRCLED_WHITE_ARROW DASHED_ARROW
HARPOON_OVER_RIGHTWARDS_HARPOON OPEN-HEADED_ARROW PAIRED_ARROWS QUADRUPLE_ARROW SQUIGGLE_ARROW
TRIPLE_ARROW TRIPLE_DASH_ARROW TWO_HEADED_ARROW TWO-HEADED_ARROW_FROM_BAR
TWO-HEADED_TRIPLE_DASH_ARROW WAVE_ARROW WHITE_ARROW LEFTWARDS_ARROW_: FROM_BAR
FROM_BAR_TO_BLACK_DIAMOND OVER_RIGHTWARDS_ARROW THROUGH_LESS-THAN THROUGH_SUBSET THROUGH_X TO_BAR
TO_BAR_OVER_RIGHTWARDS_ARROW_TO_BAR TO_BLACK_DIAMOND LEFTWARDS_ARROW_ABOVE_: ALMOST_EQUAL_TO
REVERSE_ALMOST_EQUAL_TO REVERSE_TILDE_OPERATOR SHORT_RIGHTWARDS_ARROW TILDE_OPERATOR
LEFTWARDS_ARROW_WITH_: DOTTED_STEM DOUBLE_VERTICAL_STROKE HOOK LOOP PLUS_BELOW STROKE TAIL
TAIL_WITH_DOUBLE_VERTICAL_STROKE TAIL_WITH_VERTICAL_STROKE TIP_DOWNWARDS TIP_UPWARDS VERTICAL_STROKE
LEFTWARDS_DOUBLE_: RIGHTWARDS_DOUBLE_: ARROW ARROW_FROM_BAR ARROW_WITH_STROKE
ARROW_WITH_VERTICAL_STROKE ARROW-TAIL DASH_ARROW LEFTWARDS_HARPOON_WITH_BARB_:
DOWN_ABOVE_RIGHTWARDS_HARPOON_WITH_BARB_DOWN DOWN_BELOW_LONG_DASH DOWN_FROM_BAR DOWN_TO_BAR
DOWNWARDS UP_ABOVE_LEFTWARDS_HARPOON_WITH_BARB_DOWN UP_ABOVE_LONG_DASH
UP_ABOVE_RIGHTWARDS_HARPOON_WITH_BARB_UP UP_FROM_BAR UP_TO_BAR UPWARDS LEFTWARDS_TRIANGLE-HEADED_:
ARROW ARROW_OVER_RIGHTWARDS_TRIANGLE-HEADED_ARROW ARROW_TO_BAR ARROW_WITH_DOUBLE_HORIZONTAL_STROKE
ARROW_WITH_LONG_TIP_DOWNWARDS ARROW_WITH_LONG_TIP_UPWARDS DASHED_ARROW PAIRED_ARROWS
LEFTWARDS_TWO-HEADED_ARROW_WITH_: RIGHTWARDS_TWO-HEADED_ARROW_WITH_: DOUBLE_VERTICAL_STROKE TAIL
TAIL_WITH_DOUBLE_VERTICAL_STROKE TAIL_WITH_VERTICAL_STROKE TRIANGLE_ARROWHEADS VERTICAL_STROKE
LESS-THAN_: AND_NOT_APPROXIMATE AND_SINGLE-LINE_NOT_EQUAL_TO BUT_NOT_EQUAL_TO BUT_NOT_EQUIVALENT_TO
CLOSED_BY_CURVE CLOSED_BY_CURVE_ABOVE_SLANTED_EQUAL EQUAL_TO_OR_GREATER-THAN OR_APPROXIMATE
OR_EQUAL_TO OR_EQUIVALENT_TO OR_GREATER-THAN OR_SLANTED_EQUAL_TO OVER_EQUAL_TO WITH_CIRCLE_INSIDE
WITH_DOT WITH_QUESTION_MARK_ABOVE LESS-THAN_ABOVE_: DOUBLE-LINE_EQUAL_ABOVE_GREATER-THAN
GREATER-THAN_ABOVE_DOUBLE-LINE_EQUAL LEFTWARDS_ARROW SIMILAR_ABOVE_GREATER-THAN SIMILAR_OR_EQUAL
SLANTED_EQUAL_ABOVE_GREATER-THAN_ABOVE_SLANTED_EQUAL LESS-THAN_OR_SLANTED_EQUAL_TO_WITH_DOT_: ABOVE
ABOVE_RIGHT INSIDE LIGHT_: FOUR_POINTED_BLACK_CUSP LEFT_TORTOISE_SHELL_BRACKET_ORNAMENT
RIGHT_TORTOISE_SHELL_BRACKET_ORNAMENT SHADE VERTICAL_BAR LINE_INTEGRATION_: NOT_INCLUDING_THE_POLE
WITH_RECTANGULAR_PATH_AROUND_POLE WITH_SEMICIRCULAR_PATH_AROUND_POLE LOGICAL_: AND OR
OR_OVERLAPPING_LOGICAL_AND LOGICAL_AND_WITH_: DOT_ABOVE DOUBLE_OVERBAR DOUBLE_UNDERBAR
HORIZONTAL_DASH MIDDLE_STEM UNDERBAR LOGICAL_OR_WITH_: DOT_ABOVE DOUBLE_OVERBAR DOUBLE_UNDERBAR
HORIZONTAL_DASH MIDDLE_STEM LONG_: DASH_FROM_LEFT_MEMBER_OF_DOUBLE_VERTICAL DIVISION LEFT_TACK
RIGHT_TACK LONG_LEFT_RIGHT_: ARROW DOUBLE_ARROW LONG_LEFTWARDS_: LONG_RIGHTWARDS_: ARROW
ARROW_FROM_BAR DOUBLE_ARROW DOUBLE_ARROW_FROM_BAR SQUIGGLE_ARROW LOW_: ASTERISK KAVYKA
KAVYKA_WITH_DOT LOWER_: BLADE_SCISSORS FIVE_EIGHTHS_BLOCK ONE_EIGHTH_BLOCK ONE_QUARTER_BLOCK
SEVEN_EIGHTHS_BLOCK THREE_EIGHTHS_BLOCK THREE_QUARTERS_BLOCK LOWER_HALF_: UPPER_HALF_: BLOCK CIRCLE
INVERSE_WHITE_CIRCLE LOWER_LEFT_: QUADRANT_CIRCULAR_ARC SEMICIRCULAR_ANTICLOCKWISE_ARROW TRIANGLE
LOWER_RIGHT_: CORNER_WITH_DOT DROP-SHADOWED_WHITE_SQUARE PENCIL QUADRANT_CIRCULAR_ARC
SEMICIRCULAR_CLOCKWISE_ARROW SHADOWED_WHITE_SQUARE TRIANGLE MALE_: AND_FEMALE_SIGN SIGN
MALE_WITH_STROKE_: AND_MALE_AND_FEMALE_SIGN SIGN MATHEMATICAL_: FALLING_DIAGONAL RISING_DIAGONAL
MATHEMATICAL_LEFT_: MATHEMATICAL_RIGHT_: ANGLE_BRACKET DOUBLE_ANGLE_BRACKET FLATTENED_PARENTHESIS
WHITE_SQUARE_BRACKET WHITE_TORTOISE_SHELL_BRACKET MEASURED_: ANGLE ANGLE_OPENING_LEFT BY
RIGHT_ANGLE_WITH_DOT MEASURED_ANGLE_WITH_OPEN_ARM_ENDING_IN_ARROW_POINTING_: DOWN_AND_LEFT
DOWN_AND_RIGHT LEFT_AND_DOWN LEFT_AND_UP RIGHT_AND_DOWN RIGHT_AND_UP UP_AND_LEFT UP_AND_RIGHT
MEDIEVAL_: COMMA EXCLAMATION_MARK QUESTION_MARK MEDIUM_: BLACK_CIRCLE LEFT_CURLY_BRACKET_ORNAMENT
LEFT_PARENTHESIS_ORNAMENT LEFT-POINTING_ANGLE_BRACKET_ORNAMENT MATHEMATICAL_SPACE
RIGHT_CURLY_BRACKET_ORNAMENT RIGHT_PARENTHESIS_ORNAMENT RIGHT-POINTING_ANGLE_BRACKET_ORNAMENT SHADE
SMALL_WHITE_CIRCLE VERTICAL_BAR WHITE_CIRCLE MEDIUM_FLATTENED_: LEFT_PARENTHESIS_ORNAMENT
RIGHT_PARENTHESIS_ORNAMENT METRICAL_: BREVE LONG_OVER_SHORT LONG_OVER_TWO_SHORTS PENTASEME
SHORT_OVER_LONG TETRASEME TRISEME TWO_SHORTS_JOINED TWO_SHORTS_OVER_LONG MINUS_: SIGN
SIGN_IN_TRIANGLE TILDE MINUS_SIGN_WITH_: COMMA_ABOVE DOT_BELOW FALLING_DOTS RISING_DOTS
MULTIPLICATION_SIGN_: IN_DOUBLE_CIRCLE IN_LEFT_HALF_CIRCLE IN_RIGHT_HALF_CIRCLE IN_TRIANGLE
WITH_DOT_ABOVE WITH_UNDERBAR MULTISET_: MULTIPLICATION UNION MUSIC_: FLAT_SIGN NATURAL_SIGN
SHARP_SIGN N-ARY_: COPRODUCT INTERSECTION LOGICAL_AND LOGICAL_OR PRODUCT
SQUARE_INTERSECTION_OPERATOR SQUARE_UNION_OPERATOR SUMMATION TIMES_OPERATOR UNION WHITE_VERTICAL_BAR
N-ARY_CIRCLED_: DOT_OPERATOR PLUS_OPERATOR TIMES_OPERATOR N-ARY_UNION_OPERATOR_WITH_: DOT PLUS
NEGATIVE_: CIRCLED_DIGIT_ZERO SQUARED_CROSS_MARK NEGATIVE_CIRCLED_NUMBER_: EIGHTEEN ELEVEN FIFTEEN
FOURTEEN NINETEEN SEVENTEEN SIXTEEN THIRTEEN TWELVE TWENTY NEITHER_: A_SUBSET_OF_NOR_EQUAL_TO
A_SUPERSET_OF_NOR_EQUAL_TO APPROXIMATELY_NOR_ACTUALLY_EQUAL_TO NEITHER_GREATER-THAN_NOR_: EQUAL_TO
EQUIVALENT_TO LESS-THAN NEITHER_LESS-THAN_NOR_: EQUAL_TO EQUIVALENT_TO GREATER-THAN
NORMAL_SUBGROUP_: NOT_NORMAL_SUBGROUP_: OF OF_OR_EQUAL_TO NORTH_EAST_: AND_SOUTH_WEST_ARROW ARROW
BLACK_ARROW DOUBLE_ARROW WHITE_ARROW NORTH_EAST_ARROW_: AND_SOUTH_EAST_ARROW
CROSSING_NORTH_WEST_ARROW CROSSING_SOUTH_EAST_ARROW WITH_HOOK NORTH_EAST_TRIANGLE-HEADED_:
NORTH_WEST_TRIANGLE-HEADED_: SOUTH_EAST_TRIANGLE-HEADED_: SOUTH_WEST_TRIANGLE-HEADED_: ARROW
ARROW_TO_BAR NORTH_WEST_: AND_SOUTH_EAST_ARROW ARROW BLACK_ARROW DOUBLE_ARROW WHITE_ARROW
NORTH_WEST_ARROW_: AND_NORTH_EAST_ARROW CROSSING_NORTH_EAST_ARROW TO_CORNER TO_LONG_BAR WITH_HOOK
NOT_: A_SUBSET_OF A_SUPERSET_OF ALMOST_EQUAL_TO AN_ELEMENT_OF ASYMPTOTICALLY_EQUAL_TO CHECK_MARK
EQUAL_TO EQUIVALENT_TO GREATER-THAN IDENTICAL_TO LESS-THAN PARALLEL_TO TILDE TRUE NOT_SQUARE_:
IMAGE_OF_OR_EQUAL_TO ORIGINAL_OF_OR_EQUAL_TO NOTCHED_: LOWER_RIGHT-SHADOWED_WHITE_RIGHTWARDS_ARROW
UPPER_RIGHT-SHADOWED_WHITE_RIGHTWARDS_ARROW NUMBER_: EIGHTEEN_FULL_STOP ELEVEN_FULL_STOP
FIFTEEN_FULL_STOP FOURTEEN_FULL_STOP NINETEEN_FULL_STOP SEVENTEEN_FULL_STOP SIXTEEN_FULL_STOP
TEN_FULL_STOP THIRTEEN_FULL_STOP TWELVE_FULL_STOP TWENTY_FULL_STOP OBLIQUE_ANGLE_OPENING_: DOWN UP
OCR_: AMOUNT_OF_CHECK BELT_BUCKLE BOW_TIE BRANCH_BANK_IDENTIFICATION CHAIR CUSTOMER_ACCOUNT_NUMBER
DASH DOUBLE_BACKSLASH FORK HOOK INVERTED_FORK ONE_DOT_: LEADER OVER_TWO_DOTS_PUNCTUATION OPEN_: BOX
SUBSET SUPERSET OPEN_CENTRE_: ASTERISK BLACK_STAR CROSS TEARDROP-SPOKED_ASTERISK
OPEN-CIRCUIT-OUTPUT_: H-TYPE_SYMBOL L-TYPE_SYMBOL OUTLINED_: BLACK_STAR GREEK_CROSS LATIN_CROSS
WHITE_STAR OVERLAPPING_: BLACK_SQUARES WHITE_AND_BLACK_SQUARES WHITE_SQUARES PARALLEL_: TO
WITH_HORIZONTAL_STROKE WITH_TILDE_OPERATOR PASSIVE-PULL-: DOWN-OUTPUT_SYMBOL UP-OUTPUT_SYMBOL PER_:
MILLE_SIGN SIGN TEN_THOUSAND_SIGN PLANCK_: CONSTANT CONSTANT_OVER_TWO_PI PLUS_SIGN_:
ABOVE_EQUALS_SIGN IN_LEFT_HALF_CIRCLE IN_RIGHT_HALF_CIRCLE IN_TRIANGLE PLUS_SIGN_WITH_:
BLACK_TRIANGLE CIRCUMFLEX_ACCENT_ABOVE DOT_BELOW SMALL_CIRCLE_ABOVE SUBSCRIPT_TWO TILDE_ABOVE
TILDE_BELOW PLUTO_FORM_: FIVE FOUR THREE TWO POP_DIRECTIONAL_: FORMATTING ISOLATE POWER_: ON_SYMBOL
ON-OFF_SYMBOL SLEEP_SYMBOL SYMBOL PRECEDES_: SUCCEEDS_: BUT_NOT_EQUIVALENT_TO OR_EQUAL_TO
OR_EQUIVALENT_TO UNDER_RELATION PRECEDES_ABOVE_: SUCCEEDS_ABOVE_: ALMOST_EQUAL_TO EQUALS_SIGN
NOT_ALMOST_EQUAL_TO NOT_EQUAL_TO SINGLE-LINE_EQUALS_SIGN SINGLE-LINE_NOT_EQUAL_TO QUADRANT_UPPER_:
LEFT LEFT_AND_LOWER_LEFT_AND_LOWER_RIGHT LEFT_AND_LOWER_RIGHT RIGHT RIGHT_AND_LOWER_LEFT
RIGHT_AND_LOWER_LEFT_AND_LOWER_RIGHT QUADRUPLE_: INTEGRAL_OPERATOR PRIME RAISED_: COMMA DOT
DOTTED_INTERPOLATION_MARKER FIST HAND INTERPOLATION_MARKER SQUARE RECYCLING_SYMBOL_FOR_TYPE-:
1_PLASTICS 2_PLASTICS 3_PLASTICS 4_PLASTICS 5_PLASTICS 6_PLASTICS 7_PLASTICS RESTRICTED_LEFT_ENTRY-:
1 2 RETURN_: LEFT RIGHT SYMBOL REVERSE_SOLIDUS_: OPERATOR PRECEDING_SUBSET WITH_HORIZONTAL_STROKE
REVERSED_: ANGLE ANGLE_WITH_UNDERBAR COMMA DOUBLE_PRIME DOUBLE_STROKE_NOT_SIGN EMPTY_SET
FORKED_PARAGRAPHOS NOT_SIGN PILCROW_SIGN PRIME QUESTION_MARK RIGHT_ANGLE ROTATED_FLORAL_HEART_BULLET
SANS-SERIF_CAPITAL_L SEMICOLON TILDE TILDE_EQUALS TRIPLE_PRIME RIBBON_ARROW_: DOWN_LEFT DOWN_RIGHT
LEFT_DOWN LEFT_UP RIGHT_DOWN RIGHT_UP UP_LEFT UP_RIGHT RIGHT_: ANGLE ARC_GREATER-THAN_BRACKET
BLACK_TORTOISE_SHELL_BRACKET CEILING DOTTED_SUBSTITUTION_BRACKET FISH_TAIL FLOOR HALF_BLOCK
LOW_PARAPHRASE_BRACKET NORMAL_FACTOR_SEMIDIRECT_PRODUCT ONE_EIGHTH_BLOCK OUTER_JOIN
RAISED_OMISSION_BRACKET S-SHAPED_BAG_DELIMITER SEMIDIRECT_PRODUCT SIDEWAYS_U_BRACKET
SINGLE_QUOTATION_MARK SUBSTITUTION_BRACKET TACK TRANSPOSITION_BRACKET TRIANGLE
TRIANGLE_ABOVE_LEFT_TRIANGLE WHITE_CURLY_BRACKET WHITE_PARENTHESIS WIGGLY_FENCE RIGHT_ANGLE_:
BRACKET_WITH_DOT DOTTED_SUBSTITUTION_MARKER SUBSTITUTION_MARKER VARIANT_WITH_SQUARE WITH_ARC
WITH_DOWNWARDS_ZIGZAG_ARROW RIGHT_DOUBLE_: ARROW_WITH_ROUNDED_HEAD PARENTHESIS QUOTATION_MARK
WIGGLY_FENCE RIGHT-: HANDED_INTERLACED_PENTAGRAM SHADED_WHITE_RIGHTWARDS_ARROW
SIDE_ARC_CLOCKWISE_ARROW RIGHTWARDS_: ARROW ARROW-TAIL BLACK_ARROW BLACK_CIRCLED_WHITE_ARROW
DASHED_ARROW HARPOON_OVER_LEFTWARDS_HARPOON OPEN-HEADED_ARROW PAIRED_ARROWS QUADRUPLE_ARROW
SQUIGGLE_ARROW TRIPLE_ARROW TRIPLE_DASH_ARROW TWO_HEADED_ARROW TWO-HEADED_ARROW_FROM_BAR
TWO-HEADED_TRIPLE_DASH_ARROW WAVE_ARROW WHITE_ARROW WHITE_ARROW_FROM_WALL RIGHTWARDS_ARROW_:
FROM_BAR FROM_BAR_TO_BLACK_DIAMOND OVER_LEFTWARDS_ARROW THROUGH_GREATER-THAN THROUGH_SUPERSET
THROUGH_X TO_BAR TO_BLACK_DIAMOND RIGHTWARDS_ARROW_ABOVE_: ALMOST_EQUAL_TO REVERSE_ALMOST_EQUAL_TO
REVERSE_TILDE_OPERATOR SHORT_LEFTWARDS_ARROW TILDE_OPERATOR RIGHTWARDS_ARROW_WITH_: CORNER_DOWNWARDS
DOTTED_STEM DOUBLE_VERTICAL_STROKE HOOK LOOP PLUS_BELOW STROKE TAIL TAIL_WITH_DOUBLE_VERTICAL_STROKE
TAIL_WITH_VERTICAL_STROKE TIP_DOWNWARDS TIP_UPWARDS VERTICAL_STROKE RIGHTWARDS_HARPOON_WITH_BARB_:
DOWN_ABOVE_LEFTWARDS_HARPOON_WITH_BARB_DOWN DOWN_BELOW_LONG_DASH DOWN_FROM_BAR DOWN_TO_BAR DOWNWARDS
UP_ABOVE_LEFTWARDS_HARPOON_WITH_BARB_UP UP_ABOVE_LONG_DASH
UP_ABOVE_RIGHTWARDS_HARPOON_WITH_BARB_DOWN UP_FROM_BAR UP_TO_BAR UPWARDS
RIGHTWARDS_TRIANGLE-HEADED_: ARROW ARROW_OVER_LEFTWARDS_TRIANGLE-HEADED_ARROW ARROW_TO_BAR
ARROW_WITH_DOUBLE_HORIZONTAL_STROKE ARROW_WITH_LONG_TIP_DOWNWARDS ARROW_WITH_LONG_TIP_UPWARDS
DASHED_ARROW PAIRED_ARROWS RING_: EQUAL_TO IN_EQUAL_TO OPERATOR POINT RISING_DIAGONAL_CROSSING_:
FALLING_DIAGONAL SOUTH_EAST_ARROW ROMAN_NUMERAL_: EIGHT ELEVEN FIFTY FIFTY_EARLY_FORM FIFTY_THOUSAND
FIVE FIVE_HUNDRED FIVE_THOUSAND FOUR NINE ONE ONE_HUNDRED ONE_HUNDRED_THOUSAND ONE_THOUSAND
ONE_THOUSAND_C_D REVERSED_ONE_HUNDRED SEVEN SIX SIX_LATE_FORM TEN TEN_THOUSAND THREE TWELVE TWO
ROTATED_: CAPITAL_Q FLORAL_HEART_BULLET HEAVY_BLACK_HEART_BULLET LIGHT_FOUR_POINTED_BLACK_CUSP
WHITE_FOUR_POINTED_CUSP RUSSIAN_ASTROLOGICAL_SYMBOL_: BINOVILE NOVILE QUINTILE SENTAGON TREDECILE
VIGINTILE SCRIPT_CAPITAL_: B E F H I L M P R SCRIPT_SMALL_: E G L O SHADOWED_WHITE_: CIRCLE
LATIN_CROSS STAR SHORT_: BACKSLANTED_SOUTH_ARROW BENT_ARROW_POINTING_DOWNWARDS_THEN_NORTH_EAST
DOWN_TACK DOWN_TACK_WITH_OVERBAR LEFT_TACK RIGHTWARDS_ARROW_ABOVE_LEFTWARDS_ARROW
SLANTED_NORTH_ARROW UP_TACK UP_TACK_ABOVE_SHORT_DOWN_TACK UP_TACK_WITH_UNDERBAR SIMILAR_:
ABOVE_GREATER-THAN_ABOVE_EQUALS_SIGN ABOVE_LESS-THAN_ABOVE_EQUALS_SIGN MINUS_SIMILAR OR_GREATER-THAN
OR_LESS-THAN SINGLE_: HIGH-REVERSED-9_QUOTATION_MARK LEFT-POINTING_ANGLE_QUOTATION_MARK
LOW-9_QUOTATION_MARK RIGHT-POINTING_ANGLE_QUOTATION_MARK SIX_: PETALLED_BLACK_AND_WHITE_FLORETTE
POINTED_BLACK_STAR SLANTED_EQUAL_TO_OR_: GREATER-THAN GREATER-THAN_WITH_DOT_INSIDE LESS-THAN
LESS-THAN_WITH_DOT_INSIDE SLANTED_NORTH_ARROW_WITH_: HOOKED_HEAD HORIZONTAL_TAIL SLOPING_LARGE_:
TWO_INTERSECTING_LOGICAL_: AND OR SMALL_CONTAINS_: AS_MEMBER WITH_OVERBAR
WITH_VERTICAL_BAR_AT_END_OF_HORIZONTAL_STROKE SMALL_ELEMENT_: OF OF_WITH_OVERBAR
OF_WITH_VERTICAL_BAR_AT_END_OF_HORIZONTAL_STROKE SMALL_ROMAN_NUMERAL_: EIGHT ELEVEN FIFTY FIVE
FIVE_HUNDRED FOUR NINE ONE ONE_HUNDRED ONE_THOUSAND SEVEN SIX TEN THREE TWELVE TWO SOUTH_EAST_:
ARROW BLACK_ARROW DOUBLE_ARROW WHITE_ARROW SOUTH_EAST_ARROW_: AND_SOUTH_WEST_ARROW
CROSSING_NORTH_EAST_ARROW TO_CORNER WITH_HOOK SOUTH_WEST_: ARROW ARROW_AND_NORTH_WEST_ARROW
ARROW_WITH_HOOK BLACK_ARROW DOUBLE_ARROW WHITE_ARROW SPHERICAL_ANGLE_OPENING_: LEFT UP SQUARE_: CAP
CUP FOOT FOUR_CORNERS IMAGE_OF LEFT_OPEN_BOX_OPERATOR LOZENGE POSITION_INDICATOR
RIGHT_OPEN_BOX_OPERATOR ROOT SQUARE_IMAGE_OF_OR_: EQUAL_TO NOT_EQUAL_TO SQUARE_ORIGINAL_: OF
OF_OR_EQUAL_TO OF_OR_NOT_EQUAL_TO SQUARE_WITH_: BOTTOM_HALF_BLACK CONTOURED_OUTLINE
DIAGONAL_CROSSHATCH_FILL HORIZONTAL_FILL LEFT_HALF_BLACK LOWER_LEFT_DIAGONAL_HALF_BLACK
LOWER_RIGHT_DIAGONAL_HALF_BLACK ORTHOGONAL_CROSSHATCH_FILL RIGHT_HALF_BLACK TOP_HALF_BLACK
VERTICAL_FILL SQUARE_WITH_UPPER_: LEFT_DIAGONAL_HALF_BLACK LEFT_TO_LOWER_RIGHT_FILL
RIGHT_DIAGONAL_HALF_BLACK RIGHT_TO_LOWER_LEFT_FILL SQUARED_: ASTERISK DOT_OPERATOR
FALLING_DIAGONAL_SLASH FOUR_DOT_PUNCTUATION KEY LOGICAL_AND LOGICAL_OR MINUS PLUS
RISING_DIAGONAL_SLASH SALTIRE SMALL_CIRCLE SQUARE TIMES STAFF_OF_: AESCULAPIUS HERMES STAR_:
AND_CRESCENT EQUALS OF_DAVID OPERATOR WITH_LEFT_HALF_BLACK WITH_RIGHT_HALF_BLACK SUBSCRIPT_: EIGHT
EQUALS_SIGN FIVE FOUR LEFT_PARENTHESIS MINUS NINE ONE PLUS_SIGN RIGHT_PARENTHESIS SEVEN SIX THREE
TWO ZERO SUBSET_: OF OF_WITH_NOT_EQUAL_TO SUBSET_ABOVE_: RIGHTWARDS_ARROW SUBSET SUPERSET
SUBSET_OF_ABOVE_: SUPERSET_OF_ABOVE_: ALMOST_EQUAL_TO EQUALS_SIGN NOT_EQUAL_TO TILDE_OPERATOR
SUBSET_OF_OR_EQUAL_: SUPERSET_OF_OR_EQUAL_: TO TO_WITH_DOT_ABOVE SUBSET_WITH_: DOT
MULTIPLICATION_SIGN_BELOW PLUS_SIGN_BELOW SUMMATION_: BOTTOM TOP WITH_INTEGRAL SUPERSCRIPT_: EIGHT
EQUALS_SIGN FIVE FOUR LEFT_PARENTHESIS MINUS NINE PLUS_SIGN RIGHT_PARENTHESIS SEVEN SIX ZERO
SUPERSCRIPT_LATIN_SMALL_LETTER_: I N SUPERSET_: BESIDE_AND_JOINED_BY_DASH_WITH_SUBSET BESIDE_SUBSET
OF OF_WITH_NOT_EQUAL_TO PRECEDING_SOLIDUS WITH_DOT WITH_MULTIPLICATION_SIGN_BELOW
WITH_PLUS_SIGN_BELOW SUPERSET_ABOVE_: LEFTWARDS_ARROW SUBSET SUPERSET SYMBOL_FOR_: ACKNOWLEDGE
BACKSPACE BELL CANCEL CARRIAGE_RETURN DATA_LINK_ESCAPE DELETE DELETE_FORM_TWO ENQUIRY ESCAPE
FILE_SEPARATOR FORM_FEED GROUP_SEPARATOR HORIZONTAL_TABULATION LINE_FEED NEGATIVE_ACKNOWLEDGE
NEWLINE NULL RECORD_SEPARATOR SAMARITAN_SOURCE SHIFT_IN SHIFT_OUT SPACE START_OF_HEADING
START_OF_TEXT SUBSTITUTE SUBSTITUTE_FORM_TWO SYNCHRONOUS_IDLE TYPE_A_ELECTRONICS UNIT_SEPARATOR
VERTICAL_TABULATION SYMBOL_FOR_DEVICE_CONTROL_: FOUR ONE THREE TWO SYMBOL_FOR_END_OF_: MEDIUM TEXT
TRANSMISSION TRANSMISSION_BLOCK TEARDROP-: BARBED_RIGHTWARDS_ARROW SPOKED_ASTERISK TELEPHONE_:
LOCATION_SIGN RECORDER SIGN THERE_: DOES_NOT_EXIST EXISTS THREE_: CONSECUTIVE_EQUALS_SIGNS
DIMENSIONAL_ANGLE DOT_PUNCTUATION LEFTWARDS_ARROWS RIGHTWARDS_ARROWS THREE-:
D_BOTTOM-LIGHTED_RIGHTWARDS_ARROWHEAD D_LEFT-LIGHTED_DOWNWARDS_EQUILATERAL_ARROWHEAD
D_RIGHT-LIGHTED_UPWARDS_EQUILATERAL_ARROWHEAD EM_DASH PER-EM_SPACE THREE-D_TOP-LIGHTED_:
LEFTWARDS_EQUILATERAL_ARROWHEAD RIGHTWARDS_ARROWHEAD RIGHTWARDS_EQUILATERAL_ARROWHEAD TIFINAGH_:
CONSONANT_JOINER MODIFIER_LETTER_LABIALIZATION_MARK SEPARATOR_MARK TIFINAGH_LETTER_: AHAGGAR_YAZH
AYER_YAGH BERBER_ACADEMY_YAH BERBER_ACADEMY_YAJ TAWELLEMET_YAZ YA YAA YAB YABH YACH YAD YADD YADDH
YADH YAF YAG YAGH YAGHH YAH YAHH YAJ YAK YAKH YAKHH YAL YAM YAN YAP YAQ YAR YARR YAS YASH YASS YAT
YATH YATT YAV YAW YAY YAZ YAZH YAZZ YE YEY YI YO YU TIFINAGH_LETTER_TUAREG_: YAGH YAGN YAH YAK YAKH
YANG YAQ YAZH TILDE_OPERATOR_: ABOVE_LEFTWARDS_ARROW ABOVE_RIGHTWARDS_ARROW WITH_DOT_ABOVE
WITH_RISING_DOTS TILDE_WITH_: DOT_ABOVE DOT_BELOW RING_ABOVE TIRONIAN_SIGN_: CAPITAL_ET ET TOP_:
ARC_CLOCKWISE_ARROW_WITH_MINUS CURLY_BRACKET PARENTHESIS SQUARE_BRACKET TORTOISE_SHELL_BRACKET
TOP_ARC_ANTICLOCKWISE_: ARROW ARROW_WITH_PLUS TOP_HALF_: BLACK_CIRCLE INTEGRAL LEFT_PARENTHESIS
RIGHT_PARENTHESIS SECTION_SIGN TRIANGLE_WITH_: DOT_ABOVE SERIFS_AT_BOTTOM UNDERBAR TRIGRAM_FOR_:
EARTH FIRE HEAVEN LAKE MOUNTAIN THUNDER WATER WIND TRIPLE_: COLON_OPERATOR DAGGER INTEGRAL
NESTED_GREATER-THAN NESTED_LESS-THAN PLUS PRIME SOLIDUS_BINARY_RELATION TILDE
TRIPLE_HORIZONTAL_BAR_WITH_: DOUBLE_VERTICAL_STROKE TRIPLE_VERTICAL_STROKE TRIPLE_VERTICAL_BAR_:
BINARY_RELATION DELIMITER RIGHT_TURNSTILE WITH_HORIZONTAL_STROKE TURNED_: AMPERSAND ANGLE
BLACK_PENTAGON BLACK_SHOGI_PIECE CAPITAL_F COMMA DAGGER DIGIT_THREE DIGIT_TWO
GREEK_SMALL_LETTER_IOTA NOT_SIGN SEMICOLON SMALL_F WHITE_SHOGI_PIECE TURNED_SANS-SERIF_CAPITAL_: G L
Y TWO_: ASTERISKS_ALIGNED_VERTICALLY CONSECUTIVE_EQUALS_SIGNS DOT_LEADER DOT_PUNCTUATION
DOTS_OVER_ONE_DOT_PUNCTUATION JOINED_SQUARES TWO_LOGICAL_: AND_OPERATOR OR_OPERATOR UMBRELLA_:
ON_GROUND WITH_RAIN_DROPS UNION_ABOVE_: BAR_ABOVE_INTERSECTION INTERSECTION UNION_WITH_: LOGICAL_OR
MINUS_SIGN OVERBAR UP_: ARROW_THROUGH_CIRCLE ARROWHEAD FISH_TAIL RIGHT_DIAGONAL_ELLIPSIS TACK
TACK_WITH_CIRCLE_ABOVE UP_ARROWHEAD_: BETWEEN_TWO_HORIZONTAL_BARS IN_A_RECTANGLE_BOX
UP_BARB_LEFT_DOWN_BARB_: UP_BARB_RIGHT_DOWN_BARB_: LEFT_HARPOON RIGHT_HARPOON UP_DOWN_: ARROW
ARROW_WITH_BASE BLACK_ARROW DOUBLE_ARROW TRIANGLE-HEADED_ARROW WHITE_ARROW UPPER_: BLADE_SCISSORS
ONE_EIGHTH_BLOCK UPPER_LEFT_: CORNER_WITH_DOT OR_LOWER_RIGHT_CURLY_BRACKET_SECTION
QUADRANT_CIRCULAR_ARC TRIANGLE UPPER_RIGHT_: DROP-SHADOWED_WHITE_SQUARE
OR_LOWER_LEFT_CURLY_BRACKET_SECTION PENCIL QUADRANT_CIRCULAR_ARC SHADOWED_WHITE_SQUARE TRIANGLE
UPWARDS_: ANCORA ARROW BLACK_ARROW BLACK_CIRCLED_WHITE_ARROW DASHED_ARROW DOUBLE_ARROW PAIRED_ARROWS
QUADRUPLE_ARROW TRIPLE_ARROW TWO_HEADED_ARROW WHITE_ARROW UPWARDS_ARROW_: FROM_BAR
LEFTWARDS_OF_DOWNWARDS_ARROW TO_BAR WITH_DOUBLE_STROKE WITH_HORIZONTAL_STROKE WITH_TIP_LEFTWARDS
WITH_TIP_RIGHTWARDS UPWARDS_TRIANGLE-HEADED_: ARROW
ARROW_LEFTWARDS_OF_DOWNWARDS_TRIANGLE-HEADED_ARROW ARROW_TO_BAR ARROW_WITH_DOUBLE_HORIZONTAL_STROKE
ARROW_WITH_LONG_TIP_LEFTWARDS ARROW_WITH_LONG_TIP_RIGHTWARDS DASHED_ARROW PAIRED_ARROWS
UPWARDS_TWO-HEADED_ARROW_: FROM_SMALL_CIRCLE WITH_TRIANGLE_ARROWHEADS UPWARDS_WHITE_ARROW_: FROM_BAR
FROM_BAR_WITH_HORIZONTAL_BAR ON_PEDESTAL ON_PEDESTAL_WITH_HORIZONTAL_BAR
ON_PEDESTAL_WITH_VERTICAL_BAR UPWARDS_WHITE_DOUBLE_: ARROW ARROW_ON_PEDESTAL VERTICAL_: ELLIPSIS
FOUR_DOTS LINE_EXTENSION MALE_WITH_STROKE_SIGN SIX_DOTS TAB_KEY TILDE ZIGZAG_LINE VERTICAL_BAR_:
BESIDE_RIGHT_TRIANGLE DOUBLE_LEFT_TURNSTILE TRIPLE_RIGHT_TURNSTILE WITH_HORIZONTAL_STROKE
VERTICAL_LINE_WITH_: CIRCLE_ABOVE CIRCLE_BELOW MIDDLE_DOT VULGAR_FRACTION_: FIVE_EIGHTHS FIVE_SIXTHS
FOUR_FIFTHS SEVEN_EIGHTHS THREE_EIGHTHS THREE_FIFTHS TWO_FIFTHS TWO_THIRDS ZERO_THIRDS
VULGAR_FRACTION_ONE_: EIGHTH FIFTH NINTH SEVENTH SIXTH TENTH THIRD WHITE_: BULLET CIRCLE CLUB_SUIT
DIAMOND DOWN_POINTING_INDEX EXCLAMATION_MARK_ORNAMENT FLAG FLAG_WITH_HORIZONTAL_MIDDLE_BLACK_STRIPE
FLORETTE FROWNING_FACE HEART_SUIT HEAVY_CHECK_MARK HEXAGON HORIZONTAL_ELLIPSE HOURGLASS LARGE_SQUARE
LEFT_LANE_MERGE LEFT_POINTING_INDEX MOON_SELENA NIB PARALLELOGRAM PENTAGON QUESTION_MARK_ORNAMENT
RECTANGLE RIGHT_POINTING_INDEX SCISSORS SHOGI_PIECE SMILING_FACE SPADE_SUIT SQUARE
SQUARE_CONTAINING_BLACK_SMALL_SQUARE STAR SUN_WITH_RAYS TELEPHONE TRAPEZIUM
TRIANGLE_CONTAINING_SMALL_WHITE_TRIANGLE TWO-WAY_LEFT_WAY_TRAFFIC UP_POINTING_INDEX
VERY_SMALL_SQUARE WHITE_CIRCLE_WITH_: DOT_RIGHT DOWN_ARROW LOWER_LEFT_QUADRANT LOWER_RIGHT_QUADRANT
TWO_DOTS UPPER_LEFT_QUADRANT UPPER_RIGHT_QUADRANT WHITE_CONCAVE-SIDED_: DIAMOND
DIAMOND_WITH_LEFTWARDS_TICK DIAMOND_WITH_RIGHTWARDS_TICK WHITE_DIAMOND_:
CONTAINING_BLACK_SMALL_DIAMOND IN_SQUARE SUIT WITH_CENTRED_DOT WHITE_DOWN-POINTING_: SMALL_TRIANGLE
TRIANGLE WHITE_FOUR_POINTED_: CUSP STAR WHITE_LEFT-POINTING_: POINTER SMALL_TRIANGLE TRIANGLE
WHITE_MEDIUM_: DIAMOND LOZENGE SMALL_SQUARE SQUARE STAR WHITE_RIGHT-POINTING_: PENTAGON POINTER
SMALL_TRIANGLE TRIANGLE WHITE_SMALL_: LOZENGE SQUARE STAR WHITE_SQUARE_WITH_: CENTRE_VERTICAL_LINE
LEFTWARDS_TICK LOWER_LEFT_QUADRANT LOWER_RIGHT_QUADRANT RIGHTWARDS_TICK ROUNDED_CORNERS
UPPER_LEFT_QUADRANT UPPER_RIGHT_QUADRANT VERTICAL_BISECTING_LINE WHITE_UP-POINTING_: SMALL_TRIANGLE
TRIANGLE TRIANGLE_WITH_DOT WHITE_VERTICAL_: BAR ELLIPSE RECTANGLE WORD_: JOINER SEPARATOR_MIDDLE_DOT
Z_NOTATION_: BAG_MEMBERSHIP DOMAIN_ANTIRESTRICTION LEFT_BINDING_BRACKET LEFT_IMAGE_BRACKET
RANGE_ANTIRESTRICTION RELATIONAL_COMPOSITION RIGHT_BINDING_BRACKET RIGHT_IMAGE_BRACKET SPOT
TYPE_COLON Z_NOTATION_SCHEMA_: COMPOSITION PIPING PROJECTION ZERO_WIDTH_: JOINER NON-JOINER SPACE
"

end Sabotage.Text.CharacterName

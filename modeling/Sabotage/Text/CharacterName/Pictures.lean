/-!
# Pictures

Tiles, cards and pictures, and the signs for tags.
-/

namespace Sabotage.Text.CharacterName

/-- The listing of these names. -/
def pictureNames : String := "
: ABACUS ACCORDION ADHESIVE_BANDAGE ADMISSION_TICKETS ADULT AERIAL_TRAMWAY ALIEN_MONSTER AMBULANCE
AMERICAN_FOOTBALL AMPHORA ANATOMICAL_HEART ANGER_SYMBOL ANGRY_FACE ANGUISHED_FACE ANT
ANTENNA_WITH_BARS ANTICLOCKWISE_DOWNWARDS_AND_UPWARDS_OPEN_CIRCLE_ARROWS ARROWHEAD-SHAPED_POINTER
ARTICULATED_LORRY ARTIST_PALETTE ASTONISHED_FACE ATHLETIC_SHOE AUBERGINE AUTO_RICKSHAW
AUTOMATED_TELLER_MACHINE AUTOMOBILE AVOCADO AXE BABY BACON BACTRIAN_CAMEL BADGER
BADMINTON_RACQUET_AND_SHUTTLECOCK BAGEL BAGGAGE_CLAIM BAGUETTE_BREAD BALL_OF_YARN BALLET_SHOES
BALLOON BANANA BANJO BANK BARBER_POLE BASKET BASKETBALL_AND_HOOP BAT BATH BATHTUB BATTERY
BEACH_WITH_UMBRELLA BEANS BEAR_FACE BEARDED_PERSON BEATING_HEART BEAVER BED BEER_MUG BEETLE BELL
BELLHOP_BELL BENTO_BOX BEVERAGE_BOX BICYCLE BICYCLIST BIKINI BILLED_CAP BILLIARDS BIRD BIRTHDAY_CAKE
BISON BITING_LIP BLOSSOM BLOWFISH BLUEBERRIES BOAR BOMB BONE BOOK BOOKMARK BOOKMARK_TABS BOOKS
BOOMERANG BOTTLE_WITH_POPPING_CORK BOUQUET BOUQUET_OF_FLOWERS BOW_AND_ARROW BOWLING BOXING_GLOVE BOY
BOYS_SYMBOL BRAIN BREAD BREAST-FEEDING BRICK BRIDE_WITH_VEIL BRIDGE_AT_NIGHT BRIEFCASE BRIEFS
BROCCOLI BROKEN_HEART BROOM BROWN_HEART BUBBLE_TEA BUBBLES BUCKET BUG BUILDING_CONSTRUCTION BULLHORN
BULLHORN_WITH_SOUND_WAVES BURRITO BUS BUS_STOP BUST_IN_SILHOUETTE BUSTS_IN_SILHOUETTE BUTTER
BUTTERFLY CACTUS CALENDAR CALL_ME_HAND CAMERA CAMERA_WITH_FLASH CAMPING CANCEL_TAG CANCELLATION_X
CANDLE CANDY CANNED_FOOD CANOE CAROUSEL_HORSE CARP_STREAMER CARPENTRY_SAW CARROT CAT CAT_FACE
CELTIC_CROSS CHAIR CHEERING_MEGAPHONE CHEESE_WEDGE CHEQUERED_FLAG CHERRIES CHERRY_BLOSSOM CHESTNUT
CHICKEN CHILD CHILDREN_CROSSING CHIPMUNK CHOCOLATE_BAR CHOPSTICKS CHRISTMAS_TREE CINEMA CIRCUS_TENT
CITYSCAPE CITYSCAPE_AT_DUSK CLAMSHELL_MOBILE_PHONE CLAPPER_BOARD CLAPPING_HANDS_SIGN
CLASSICAL_BUILDING CLIPBOARD CLOWN_FACE COAT COCKROACH COCKTAIL_GLASS COCONUT COIN COLLISION_SYMBOL
COMPASS COMPRESSION CONFETTI_BALL CONFOUNDED_FACE CONFUSED_FACE CONTROL_KNOBS CONVENIENCE_STORE
COOKED_RICE COOKIE COOKING COPYLEFT_SYMBOL CORAL COUCH_AND_LAMP COUPLE_WITH_HEART COW COW_FACE CRAB
CREDIT_CARD CRESCENT_MOON CRICKET CRICKET_BAT_AND_BALL CROCODILE CROISSANT CROWN CRUTCH CRYSTAL_BALL
CUCUMBER CUP_WITH_STRAW CUPCAKE CURLING_STONE CURRENCY_EXCHANGE CURRY_AND_RICE CUSTARD CUSTOMS
CUT_OF_MEAT CYCLONE DAGGER_KNIFE DANCER DANGO DARK_SUNGLASSES DASH_SYMBOL DEAF_PERSON DECIDUOUS_TREE
DECREASE_FONT_SIZE_SYMBOL DEER DELIVERY_TRUCK DEPARTMENT_STORE DERELICT_HOUSE_BUILDING DESERT
DESERT_ISLAND DIESEL_LOCOMOTIVE DIRECT_HIT DISGUISED_FACE DIVING_MASK DIYA_LAMP DNA_DOUBLE_HELIX
DO_NOT_LITTER_SYMBOL DOCUMENT DODO DOG DOG_FACE DOLPHIN DOOR DOTTED_LINE_FACE DOUGHNUT DOVE_OF_PEACE
DRAGON DRAGON_FACE DRESS DROMEDARY_CAMEL DROOLING_FACE DROP_OF_BLOOD DROPLET DRUM_WITH_DRUMSTICKS
DUCK DUMPLING DVD E-MAIL_SYMBOL EAGLE EAR EGG ELEPHANT ELEVATOR ELF END_WITH_LEFTWARDS_ARROW_ABOVE
EVERGREEN_TREE EXPRESSIONLESS_FACE EXTRATERRESTRIAL_ALIEN EYE EYEGLASSES EYES FACTORY FAIRY FALAFEL
FALLEN_LEAF FAMILY FATHER_CHRISTMAS FEARFUL_FACE FEATHER FENCER FERRIS_WHEEL
FIELD_HOCKEY_STICK_AND_BALL FIRE FIRECRACKER FIREWORK_SPARKLER FIREWORKS FIRST_PLACE_MEDAL FISH
FISH_CAKE_WITH_SWIRL_DESIGN FISHING_POLE_AND_FISH FISTED_HAND_SIGN FLAMINGO FLAT_SHOE FLATBREAD
FLEXED_BICEPS FLOPPY_DISK FLOWER_PLAYING_CARDS FLUSHED_FACE FLY FOG FOGGY FOLDER FONDUE FOOT
FOOTPRINTS FORTUNE_COOKIE FOX_FACE FREEZING_FACE FRENCH_FRIES FRIED_SHRIMP FROG_FACE
FRONT-FACING_BABY_CHICK FROWNING_FACE_WITH_OPEN_MOUTH GAME_DIE GARLIC GEM_STONE GENIE GHOST
GIRAFFE_FACE GIRL GIRLS_SYMBOL GLASS_OF_MILK GLOBE_WITH_MERIDIANS GLOVES GLOWING_STAR GOAL_NET GOAT
GOGGLES GOLFER GORILLA GRADUATION_CAP GRAPES GRIMACING_FACE GROWING_HEART GUARDSMAN GUIDE_DOG GUITAR
HAIRCUT HAMBURGER HAMMER HAMMER_AND_WRENCH HAMSA HAMSTER_FACE HANDBAG HANDBALL HANDSHAKE
HAPPY_PERSON_RAISING_ONE_HAND HARD_DISK HATCHING_CHICK HEADPHONE HEADSTONE HEAR-NO-EVIL_MONKEY
HEDGEHOG HELICOPTER HERB HIBISCUS HIGH_BRIGHTNESS_SYMBOL HIGH-HEELED_SHOE HIKING_BOOT HINDU_TEMPLE
HIPPOPOTAMUS HOCHO HOLE HONEY_POT HONEYBEE HOOK HORIZONTAL_TRAFFIC_LIGHT HORSE HOSPITAL HOTEL
HUGGING_FACE HUNDRED_POINTS_SYMBOL HUSHED_FACE HUT I_LOVE_YOU_HAND_SIGN IDENTIFICATION_CARD IMP
INBOX_TRAY INCOMING_ENVELOPE INCREASE_FONT_SIZE_SYMBOL INDEX_POINTING_AT_THE_VIEWER
INFORMATION_DESK_PERSON IZAKAYA_LANTERN JACK-O-LANTERN JAR JEANS JIGSAW_PUZZLE_PIECE JOYSTICK
JUGGLING KAABA KANGAROO KEY KEYBOARD_AND_MOUSE KEYCAP_TEN KIMONO KISS KISS_MARK KITE KIWIFRUIT
KNEELING_PERSON KNOT KOALA LAB_COAT LABEL LACROSSE_STICK_AND_BALL LADDER LADY_BEETLE LANGUAGE_TAG
LEAF_FLUTTERING_IN_WIND LEAFY_GREEN LEDGER LEG LEMON LEOPARD LEVEL_SLIDER LIGATURE_OPEN_ET_ORNAMENT
LINK_SYMBOL LINKED_PAPERCLIPS LION_FACE LIPS LIPSTICK LIZARD LLAMA LOBSTER LOCK LOCK_WITH_INK_PEN
LOLLIPOP LONG_DRUM LOTION_BOTTLE LOTUS LOUDLY_CRYING_FACE LUGGAGE LUNGS LYING_FACE MAGE MAGIC_WAND
MAGNET MAMMOTH MAN MANGO MANS_SHOE MANTELPIECE_CLOCK MANUAL_WHEELCHAIR MAPLE_LEAF
MARTIAL_ARTS_UNIFORM MASK_WORK_SYMBOL MATE_DRINK MAXIMIZE MEAT_ON_BONE MELON MELTING_FACE MEMO
MENORAH_WITH_NINE_BRANCHES MENS_SYMBOL MERPERSON METRO MICROBE MICROPHONE MICROSCOPE
MIDDLE_THIRD_WHITE_RIGHT_POINTING_INDEX MILKY_WAY MINIBUS MINIDISC MINIMIZE MIRROR MIRROR_BALL
MODERN_PENTATHLON MONEY-MOUTH_FACE MONKEY MONKEY_FACE MONORAIL MOOD_BUBBLE MOSQUE MOSQUITO
MOTHER_CHRISTMAS MOTORIZED_WHEELCHAIR MOTORWAY MOUNT_FUJI MOUSE MOUTH MOVIE_CAMERA MOYAI
MULTIPLE_MUSICAL_NOTES MUSHROOM NAIL_POLISH NAME_BADGE NATIONAL_PARK NAUSEATED_FACE NAZAR_AMULET
NECKTIE NERD_FACE NEST_WITH_EGGS NESTING_DOLLS NEUTRAL_FACE NEWSPAPER NIGHT_WITH_STARS NINJA
NON-POTABLE_WATER_SYMBOL NORTHEAST-POINTING_AIRPLANE NOSE NOTE NOTEBOOK
NOTEBOOK_WITH_DECORATIVE_COVER NUT_AND_BOLT OCTAGONAL_SIGN OCTOPUS ODEN OFFICE_BUILDING OIL_DRUM
OK_HAND_SIGN OLIVE OM_SYMBOL ON_WITH_EXCLAMATION_MARK_WITH_LEFT_RIGHT_ARROW_ABOVE ONE_BUTTON_MOUSE
ONE-PIECE_SWIMSUIT ONION ORANGUTAN OTTER OUTBOX_TRAY OVERHEATED_FACE OVERLAP OWL OX OYSTER PACKAGE
PAGE PAGE_FACING_UP PAGER PAGES PAGODA PALMS_UP_TOGETHER PANCAKES PANDA_FACE PAPERCLIP PARACHUTE
PARROT PARTY_POPPER PASSENGER_SHIP PASSPORT_CONTROL PAW_PRINTS PEACH PEACOCK PEANUTS PEAR PEDESTRIAN
PEN_OVER_STAMPED_ENVELOPE PENGUIN PENSIVE_FACE PEOPLE_HUGGING PERFORMING_ARTS PERSEVERING_FACE
PERSONAL_COMPUTER PETRI_DISH PICKUP_TRUCK PIE PIG PILE_OF_POO PILL PINATA PINCHED_FINGERS
PINCHING_HAND PINE_DECORATION PINEAPPLE PISTOL PLACARD PLACE_OF_WORSHIP PLAYGROUND_SLIDE PLUNGER
POCKET_CALCULATOR POODLE POPCORN PORTABLE_STEREO POSTAL_HORN POSTBOX POT_OF_FOOD
POTABLE_WATER_SYMBOL POTATO POTTED_PLANT POUCH POULTRY_LEG POURING_LIQUID PRAYER_BEADS PRETZEL
PRINCE PRINCESS PRINTER PRINTER_ICON PROBING_CANE PROHIBITED_SIGN PUBLIC_ADDRESS_LOUDSPEAKER
PURPLE_HEART PURSE PUSHPIN PUT_LITTER_IN_ITS_PLACE_SYMBOL RABBIT RABBIT_FACE RACCOON RADIO
RADIO_BUTTON RAINBOW RAM RAT RAZOR RECEIPT RECREATIONAL_VEHICLE RELIEVED_FACE REMINDER_RIBBON
RESTROOM REVOLVING_HEARTS RHINOCEROS RIBBON RIFLE RING RING_BUOY RINGED_PLANET RINGING_BELL
ROASTED_SWEET_POTATO ROBOT_FACE ROCK ROCKET ROLL_OF_PAPER ROLLED-UP_NEWSPAPER
ROLLING_ON_THE_FLOOR_LAUGHING ROOSTER ROSE ROSETTE ROWBOAT RUGBY_FOOTBALL RUNNER
RUNNING_SHIRT_WITH_SASH SAKE_BOTTLE_AND_CUP SALT_SHAKER SALUTING_FACE SANDWICH
SANS-SERIF_INTERROBANG_ORNAMENT SARI SATELLITE SATELLITE_ANTENNA SAUROPOD SAXOPHONE SCARF SCHOOL
SCHOOL_SATCHEL SCOOTER SCORPION SCREEN SCREWDRIVER SCRIPT_LIGATURE_ET_ORNAMENT SCROLL SEAL SEAT
SECOND_PLACE_MEDAL SEE-NO-EVIL_MONKEY SEEDLING SELFIE SERIOUS_FACE_WITH_SYMBOLS_COVERING_MOUTH
SEWING_NEEDLE SHALLOW_PAN_OF_FOOD SHARK SHAVED_ICE SHEEP SHIELD SHIP
SHOCKED_FACE_WITH_EXPLODING_HEAD SHOOTING_STAR SHORTCAKE SHORTS SHOWER SHRIMP SHRUG
SIGN_OF_THE_HORNS SILHOUETTE_OF_JAPAN SKATEBOARD SKI_AND_SKI_BOOT SKULL SKUNK SLED SLEEPY_FACE
SLEUTH_OR_SPY SLICE_OF_PIZZA SLOT_MACHINE SLOTH SMIRKING_FACE SMOKING_SYMBOL SNAIL SNAKE
SNEEZING_FACE SNOW_CAPPED_MOUNTAIN SNOWBOARDER SOCKS SOFTBALL SOON_WITH_RIGHTWARDS_ARROW_ABOVE
SPAGHETTI SPARKLING_HEART SPEAK-NO-EVIL_MONKEY SPEAKER SPEAKING_HEAD_IN_SILHOUETTE SPEECH_BALLOON
SPEEDBOAT SPIDER SPIDER_WEB SPLASHING_SWEAT_SYMBOL SPONGE SPOOL_OF_THREAD SPOON SPORTS_MEDAL
SPOUTING_WHALE SQUID STADIUM STAMPED_ENVELOPE STANDING_PERSON STATION STATUE_OF_LIBERTY
STEAM_LOCOMOTIVE STEAMING_BOWL STETHOSCOPE STICK_FIGURE STOCK_CHART STRAIGHT_RULER STRAWBERRY
STUDIO_MICROPHONE STUFFED_FLATBREAD STUPA SUN_WITH_FACE SUNFLOWER SUNRISE SUNRISE_OVER_MOUNTAINS
SUNSET_OVER_BUILDINGS SUPERHERO SUPERVILLAIN SURFER SUSHI SUSPENSION_RAILWAY SWAN
SWASH_AMPERSAND_ORNAMENT SWIMMER SYMBOL_FOR_MARKS_CHAPTER SYNAGOGUE SYRINGE T-REX T-SHIRT
TABLE_TENNIS_PADDLE_AND_BALL TACO TAKEOUT_BOX TAMALE TANABATA_TREE TANGERINE TAPE_CARTRIDGE TAXI
TEACUP_WITHOUT_HANDLE TEAPOT TEAR-OFF_CALENDAR TEDDY_BEAR TELESCOPE TELEVISION
TENNIS_RACQUET_AND_BALL TEST_TUBE THERMOMETER THINKING_FACE THIRD_PLACE_MEDAL THONG_SANDAL
THOUGHT_BALLOON TICKET TIGER TIGER_FACE TIRED_FACE TOILET TOKYO_TOWER TOMATO TONGUE TOOLBOX TOOTH
TOOTHBRUSH TORTOISE_SHELL_BRACKETED_LATIN_CAPITAL_LETTER_S TRACKBALL TRACTOR TRAIN TRAM TRAM_CAR
TRIANGLE_WITH_ROUNDED_CORNERS TRIDENT_EMBLEM TROLL TROLLEYBUS TROPHY TRUMPET TULIP TUMBLER_GLASS
TURKEY TURTLE TWISTED_RIGHTWARDS_ARROWS UNAMUSED_FACE UNICORN_FACE UP_DOWN_SANS-SERIF_ARROW
UPSIDE-DOWN_FACE VAMPIRE VERTICAL_TRAFFIC_LIGHT VERY_BOLD_GREEK_CROSS VIBRATION_MODE VIDEOCASSETTE
VIOLIN VOIDED_GREEK_CROSS VOLCANO VOLLEYBALL WAFFLE WASTEBASKET WATERMELON WEDDING WEIGHT_LIFTER
WHALE WHEEL WILTED_FLOWER WINDOW WINE_GLASS WINKING_FACE WIRED_KEYBOARD WOLF_FACE WOMAN
WOMAN_WITH_BUNNY_EARS WOMENS_SYMBOL WOOD WORLD_MAP WORM WORRIED_FACE WRAPPED_PRESENT WRENCH
WRESTLERS X-RAY YAWNING_FACE YELLOW_HEART YO-YO ZEBRA_FACE ZIPPER-MOUTH_FACE ZOMBIE AIRPLANE_:
ARRIVING DEPARTURE ALCHEMICAL_SYMBOL_FOR_: AIR ALEMBIC ALKALI ALKALI-2 ALUM AMALGAM ANTIMONY_ORE
AQUA_REGIA AQUA_REGIA-2 AQUA_VITAE AQUA_VITAE-2 AQUAFORTIS ARSENIC ASHES AURIPIGMENT BATH_OF_MARY
BATH_OF_VAPOURS BISMUTH_ORE BLACK_SULFUR BORAX BORAX-2 BORAX-3 BRICK CADUCEUS CALX CAPUT_MORTUUM
CINNABAR COPPER_ANTIMONIATE COPPER_ORE CROCUS_OF_COPPER CROCUS_OF_COPPER-2 CROCUS_OF_IRON CRUCIBLE
DAY-NIGHT DISSOLVE DISSOLVE-2 DISTILL EARTH FIRE GOLD GUM HALF_DRAM HALF_OUNCE HORSE_DUNG HOUR
IRON_ORE IRON_ORE-2 IRON-COPPER_ORE LEAD_ORE LODESTONE MARCASITE MERCURY_SUBLIMATE
MERCURY_SUBLIMATE-2 MERCURY_SUBLIMATE-3 MONTH NIGHT NITRE OIL PHILOSOPHERS_SULFUR POT_ASHES POWDER
POWDERED_BRICK PRECIPITATE PURIFY PUTREFACTION QUICK_LIME QUINTESSENCE REALGAR REALGAR-2 REGULUS
REGULUS_OF_ANTIMONY REGULUS_OF_ANTIMONY-2 REGULUS_OF_IRON REGULUS-2 REGULUS-3 REGULUS-4 RETORT
ROCK_SALT ROCK_SALT-2 SAL-AMMONIAC SALT SALT_OF_ANTIMONY SALT_OF_COPPER_ANTIMONIATE SCEPTER_OF_JOVE
SILVER SOAP SPIRIT STARRED_TRIDENT STRATUM_SUPER_STRATUM STRATUM_SUPER_STRATUM-2 SUBLIMATION SULFUR
TARTAR TARTAR-2 TIN_ORE TINCTURE TRIDENT TUTTY URINE VERDIGRIS VINEGAR VINEGAR_OF_ANTIMONY VINEGAR-2
VINEGAR-3 VITRIOL VITRIOL-2 WATER WAX ALCHEMICAL_SYMBOL_FOR_CRUCIBLE-: 2 3 4 5
ALCHEMICAL_SYMBOL_FOR_SUBLIMATE_OF_: ANTIMONY COPPER SALT_OF_ANTIMONY SALT_OF_COPPER
ARROW_POINTING_: RIGHTWARDS_THEN_CURVING_SOUTH_WEST UPWARDS_THEN_NORTH_WEST BABY_: ANGEL BOTTLE
CHICK SYMBOL BACK_: OF_ENVELOPE WITH_LEFTWARDS_ARROW_ABOVE BALLOT_: BOLD_SCRIPT_X SCRIPT_X
BALLOT_BOX_WITH_: BALLOT BOLD_CHECK BOLD_SCRIPT_X SCRIPT_X BANKNOTE_WITH_: DOLLAR_SIGN EURO_SIGN
POUND_SIGN YEN_SIGN BAR_: CHART OF_SOAP BEAMED_: ASCENDING_MUSICAL_NOTES DESCENDING_MUSICAL_NOTES
BELL_: PEPPER WITH_CANCELLATION_STROKE BLACK_: DOWN_POINTING_BACKHAND_INDEX
DOWN-POINTING_ISOSCELES_RIGHT_TRIANGLE DROPLET FOLDER HARD_SHELL_FLOPPY_DISK HEART
LEFT_POINTING_BACKHAND_INDEX LEFT-POINTING_ISOSCELES_RIGHT_TRIANGLE PENNANT PUSHPIN
RIGHT_POINTING_BACKHAND_INDEX RIGHT-POINTING_ISOSCELES_RIGHT_TRIANGLE ROSETTE SKULL_AND_CROSSBONES
SQUARE_BUTTON TOUCHTONE_TELEPHONE UP_POINTING_BACKHAND_INDEX UP-POINTING_ISOSCELES_RIGHT_TRIANGLE
BLACK_CHESS_: WHITE_CHESS_: EQUIHOPPER EQUIHOPPER_ROTATED_NINETY_DEGREES KING_ROTATED_NINETY_DEGREES
KING_ROTATED_TWO_HUNDRED_SEVENTY_DEGREES KNIGHT-BISHOP KNIGHT-QUEEN KNIGHT-ROOK
PAWN_ROTATED_NINETY_DEGREES PAWN_ROTATED_TWO_HUNDRED_SEVENTY_DEGREES QUEEN_ROTATED_NINETY_DEGREES
QUEEN_ROTATED_TWO_HUNDRED_SEVENTY_DEGREES ROOK_ROTATED_NINETY_DEGREES
ROOK_ROTATED_TWO_HUNDRED_SEVENTY_DEGREES BLACK_CHESS_BISHOP_ROTATED_: WHITE_CHESS_BISHOP_ROTATED_:
NINETY_DEGREES TWO_HUNDRED_SEVENTY_DEGREES BLACK_CHESS_KNIGHT_ROTATED_:
NEUTRAL_CHESS_KNIGHT_ROTATED_: WHITE_CHESS_KNIGHT_ROTATED_: FORTY-FIVE_DEGREES NINETY_DEGREES
ONE_HUNDRED_THIRTY-FIVE_DEGREES THREE_HUNDRED_FIFTEEN_DEGREES TWO_HUNDRED_SEVENTY_DEGREES
TWO_HUNDRED_TWENTY-FIVE_DEGREES BLACK_CHESS_TURNED_: NEUTRAL_CHESS_TURNED_: WHITE_CHESS_TURNED_:
BISHOP KING KNIGHT PAWN QUEEN ROOK BLACK_MEDIUM_SMALL_: BLACK_VERY_SMALL_: DIAMOND LOZENGE
BLACK_SLIGHTLY_SMALL_: CIRCLE SQUARE BLACK_TINY_: DIAMOND LOZENGE SQUARE BLOCK_SEXTANT-: 1 12 123
1234 12345 12346 1235 12356 1236 124 1245 12456 1246 125 1256 126 13 134 1345 13456 1346 1356 136 14
145 1456 146 15 156 16 2 23 234 2345 23456 2346 235 2356 236 24 245 2456 25 256 26 3 34 345 3456 346
35 356 36 4 45 456 46 5 56 6 BLUE_: ORANGE_: BOOK HEART BOLD_: EIGHT_SPOKED_ASTERISK
FIVE_SPOKED_ASTERISK GREEK_CROSS SALTIRE SIX_SPOKED_ASTERISK WHITE_CIRCLE WHITE_SQUARE BOWL_:
OF_HYGIEIA WITH_SPOON BOX_DRAWINGS_LIGHT_: DIAGONAL_DIAMOND HORIZONTAL_WITH_VERTICAL_STROKE
BOX_DRAWINGS_LIGHT_DIAGONAL_MIDDLE_: LEFT_TO_LOWER_CENTRE LEFT_TO_LOWER_CENTRE_TO_MIDDLE_RIGHT
LEFT_TO_UPPER_CENTRE_TO_MIDDLE_RIGHT LEFT_TO_UPPER_CENTRE_TO_MIDDLE_RIGHT_TO_LOWER_CENTRE
RIGHT_TO_LOWER_CENTRE RIGHT_TO_UPPER_CENTRE_TO_MIDDLE_LEFT_TO_LOWER_CENTRE
BOX_DRAWINGS_LIGHT_DIAGONAL_UPPER_CENTRE_TO_MIDDLE_: LEFT LEFT_AND_MIDDLE_RIGHT_TO_LOWER_CENTRE
LEFT_TO_LOWER_CENTRE LEFT_TO_LOWER_CENTRE_TO_MIDDLE_RIGHT RIGHT
RIGHT_AND_MIDDLE_LEFT_TO_LOWER_CENTRE RIGHT_TO_LOWER_CENTRE RIGHT_TO_LOWER_CENTRE_TO_MIDDLE_LEFT
CARD_: FILE_BOX INDEX INDEX_DIVIDERS CAT_FACE_WITH_: TEARS_OF_JOY WRY_SMILE CHART_WITH_:
DOWNWARDS_TREND UPWARDS_TREND UPWARDS_TREND_AND_YEN_SIGN CHECKER_: BOARD BOARD_FILL CIRCLED_:
ANTICLOCKWISE_ARROW C_WITH_OVERLAID_BACKSLASH CC CD CROSS_FORMEE CROSS_POMMEE
DOLLAR_SIGN_WITH_OVERLAID_BACKSLASH HUMAN_FIGURE IDEOGRAPH_ACCEPT IDEOGRAPH_ADVANTAGE
INFORMATION_SOURCE SQUARE TRIANGLE WZ ZERO_WITH_SLASH CIRCLED_CROSS_FORMEE_WITH_: FOUR_DOTS TWO_DOTS
CIRCLED_ITALIC_LATIN_CAPITAL_LETTER_: C R CLINKING_: BEER_MUGS GLASSES CLOCK_FACE_: EIGHT_OCLOCK
EIGHT-THIRTY ELEVEN_OCLOCK ELEVEN-THIRTY FIVE_OCLOCK FIVE-THIRTY FOUR_OCLOCK FOUR-THIRTY NINE_OCLOCK
NINE-THIRTY ONE_OCLOCK ONE-THIRTY SEVEN_OCLOCK SEVEN-THIRTY SIX_OCLOCK SIX-THIRTY TEN_OCLOCK
TEN-THIRTY THREE_OCLOCK THREE-THIRTY TWELVE_OCLOCK TWELVE-THIRTY TWO_OCLOCK TWO-THIRTY CLOCKWISE_:
DOWNWARDS_AND_UPWARDS_OPEN_CIRCLE_ARROWS RIGHT_AND_LEFT_SEMICIRCLE_ARROWS
CLOCKWISE_RIGHTWARDS_AND_LEFTWARDS_OPEN_CIRCLE_: ARROWS ARROWS_WITH_CIRCLED_ONE_OVERLAY CLOSED_:
BOOK LOCK_WITH_KEY UMBRELLA CLOSED_MAILBOX_WITH_: OPEN_MAILBOX_WITH_: LOWERED_FLAG RAISED_FLAG
CLOUD_WITH_: LIGHTNING RAIN SNOW TORNADO CONSTRUCTION_: SIGN WORKER CROSS_: POMMEE
POMMEE_WITH_HALF-CIRCLE_BELOW CROSSED_: FLAGS NEGATIVE_SQUARED_LATIN_CAPITAL_LETTER_P CRYING_:
POUTING_: WEARY_: CAT_FACE FACE DESKTOP_: COMPUTER WINDOW DIAMOND_: SHAPE_WITH_A_DOT_INSIDE TARGET
DIGIT_: EIGHT_COMMA FIVE_COMMA FOUR_COMMA NINE_COMMA ONE_COMMA SEVEN_COMMA SIX_COMMA THREE_COMMA
TWO_COMMA ZERO_COMMA ZERO_FULL_STOP DINGBAT_: CIRCLED_SANS-SERIF_DIGIT_ZERO
NEGATIVE_CIRCLED_SANS-SERIF_DIGIT_ZERO DISAPPOINTED_: BUT_RELIEVED_FACE FACE DIZZY_: FACE SYMBOL
DOCUMENT_WITH_: PICTURE TEXT TEXT_AND_PICTURE DOMINO_TILE_: HORIZONTAL_BACK VERTICAL_BACK
DOMINO_TILE_HORIZONTAL-: DOMINO_TILE_VERTICAL-: 00-00 00-01 00-02 00-03 00-04 00-05 00-06 01-00
01-01 01-02 01-03 01-04 01-05 01-06 02-00 02-01 02-02 02-03 02-04 02-05 02-06 03-00 03-01 03-02
03-03 03-04 03-05 03-06 04-00 04-01 04-02 04-03 04-04 04-05 04-06 05-00 05-01 05-02 05-03 05-04
05-05 05-06 06-00 06-01 06-02 06-03 06-04 06-05 06-06 DOWN-POINTING_: RED_TRIANGLE
SMALL_RED_TRIANGLE DOWNWARD_FACING_: HOOK HOOK_WITH_DOT NOTCHED_HOOK NOTCHED_HOOK_WITH_DOT
DOWNWARDS_: UPWARDS_: ARROW_AND_RIGHT_ONE_EIGHTH_BLOCK COMPRESSED_ARROW FINGER-POST_ARROW
HEAVY_ARROW HEAVY_COMPRESSED_ARROW ROCKET SANS-SERIF_ARROW SQUARED_ARROW TRIANGLE_ARROWHEAD
WHITE_ARROW_WITHIN_TRIANGLE_ARROWHEAD DOWNWARDS_ARROW_WITH_: LEFTWARDS_ARROW_WITH_:
RIGHTWARDS_ARROW_WITH_: UPWARDS_ARROW_WITH_: EQUILATERAL_ARROWHEAD LARGE_TRIANGLE_ARROWHEAD
MEDIUM_TRIANGLE_ARROWHEAD NOTCHED_TAIL SMALL_EQUILATERAL_ARROWHEAD SMALL_TRIANGLE_ARROWHEAD
DOWNWARDS_TRIANGLE-HEADED_ARROW_WITH_: LEFTWARDS_TRIANGLE-HEADED_ARROW_WITH_:
RIGHTWARDS_TRIANGLE-HEADED_ARROW_WITH_: UPWARDS_TRIANGLE-HEADED_ARROW_WITH_: BOLD_SHAFT HEAVY_SHAFT
MEDIUM_SHAFT NARROW_SHAFT VERY_HEAVY_SHAFT EAR_: OF_MAIZE OF_RICE WITH_HEARING_AID EARTH_GLOBE_:
AMERICAS ASIA-AUSTRALIA EUROPE-AFRICA ELECTRIC_: LIGHT_BULB PLUG TORCH EMOJI_COMPONENT_: BALD
CURLY_HAIR RED_HAIR WHITE_HAIR EMOJI_MODIFIER_FITZPATRICK_TYPE-: 1-2 3 4 5 6 EMPTY_: DOCUMENT NEST
NOTE NOTE_PAD NOTE_PAGE PAGE PAGES ENVELOPE_WITH_: DOWNWARDS_ARROW_ABOVE LIGHTNING EUROPEAN_: CASTLE
POST_OFFICE EXTREMELY_HEAVY_: FIVE_SPOKED_ASTERISK GREEK_CROSS SALTIRE SIX_SPOKED_ASTERISK
WHITE_CIRCLE WHITE_SQUARE FACE_: HOLDING_BACK_TEARS MASSAGE PALM SAVOURING_DELICIOUS_FOOD
SCREAMING_IN_FEAR THROWING_A_KISS WITHOUT_MOUTH FACE_WITH_: COLD_SWEAT COWBOY_HAT DIAGONAL_MOUTH
FINGER_COVERING_CLOSED_LIPS HEAD-BANDAGE LOOK_OF_TRIUMPH MEDICAL_MASK MONOCLE NO_GOOD_GESTURE
OK_GESTURE ONE_EYEBROW_RAISED PARTY_HORN_AND_PARTY_HAT PEEKING_EYE PLEADING_EYES ROLLING_EYES
STUCK-OUT_TONGUE TEARS_OF_JOY THERMOMETER UNEVEN_EYES_AND_WAVY_MOUTH FACE_WITH_OPEN_:
EYES_AND_HAND_OVER_MOUTH MOUTH MOUTH_AND_COLD_SWEAT MOUTH_VOMITING FACE_WITH_STUCK-OUT_TONGUE_AND_:
TIGHTLY-CLOSED_EYES WINKING_EYE FAX_: ICON MACHINE FILE_: CABINET FOLDER FILM_: FRAMES PROJECTOR
FIRE_: ENGINE EXTINGUISHER FIRST_QUARTER_MOON_: FULL_MOON_: LAST_QUARTER_MOON_: NEW_MOON_: SYMBOL
WITH_FACE FLYING_: DISC ENVELOPE SAUCER FORK_AND_: KNIFE KNIFE_WITH_PLATE FOUR_: LEAF_CLOVER
POINTED_BLACK_STAR FRAME_WITH_: AN_X PICTURE TILES GREEN_: APPLE BOOK HEART SALAD GRINNING_:
CAT_FACE_WITH_SMILING_EYES FACE GRINNING_FACE_WITH_: ONE_LARGE_AND_ONE_SMALL_EYE SMILING_EYES
STAR_EYES HAND_WITH_INDEX_: AND_MIDDLE_FINGERS_CROSSED FINGER_AND_THUMB_CROSSED HEART_: DECORATION
HANDS HEART_WITH_: ARROW RIBBON TIP_ON_THE_LEFT HEAVY_: AMPERSAND_ORNAMENT DOLLAR_SIGN
EIGHT_SPOKED_ASTERISK EQUALS_SIGN FIVE_POINTED_BLACK_STAR FIVE_SPOKED_ASTERISK HORIZONTAL_FILL
INTERROBANG_ORNAMENT LATIN_CROSS LIGATURE_OPEN_ET_ORNAMENT SALTIRE SANS-SERIF_INTERROBANG_ORNAMENT
SCRIPT_LIGATURE_ET_ORNAMENT SIX_POINTED_BLACK_STAR SIX_SPOKED_ASTERISK WHITE_CIRCLE WHITE_SQUARE
HEAVY_ARROW_SHAFT_WIDTH_: ONE ONE_HALF ONE_THIRD TWO_THIRDS HEAVY_DOWNWARDS_ARROW_WITH_:
HEAVY_LEFTWARDS_ARROW_WITH_: HEAVY_RIGHTWARDS_ARROW_WITH_: HEAVY_UPWARDS_ARROW_WITH_:
EQUILATERAL_ARROWHEAD LARGE_EQUILATERAL_ARROWHEAD HEAVY_EIGHT_POINTED_: HEAVY_TWELVE_POINTED_:
MEDIUM_FOUR_POINTED_: MEDIUM_THREE_POINTED_: BLACK_STAR PINWHEEL_STAR HEAVY_NORTH_EAST_POINTING_:
HEAVY_NORTH_WEST_POINTING_: HEAVY_SOUTH_EAST_POINTING_: HEAVY_SOUTH_WEST_POINTING_: BUD VINE_LEAF
HIGH-SPEED_: TRAIN TRAIN_WITH_BULLET_NOSE HOLLOW_QUILT_SQUARE_: SOLID_QUILT_SQUARE_: ORNAMENT
ORNAMENT_IN_BLACK_SQUARE HORIZONTAL_ONE_EIGHTH_BLOCK-: 1358 2 3 4 5 6 7 HORSE_: FACE RACING HOT_:
DOG PEPPER HOUSE_: BUILDING BUILDINGS WITH_GARDEN ICE_: CREAM CUBE HOCKEY_STICK_AND_PUCK
INPUT_SYMBOL_FOR_: LATIN_CAPITAL_LETTERS LATIN_LETTERS LATIN_SMALL_LETTERS NUMBERS SYMBOLS INVERSE_:
CHECK_MARK CHECKER_BOARD_FILL DOWNWARDS_ARROW_WITH_TIP_LEFTWARDS MEDIUM_SHADE JAPANESE_: CASTLE
DOLLS GOBLIN OGRE POST_OFFICE SYMBOL_FOR_BEGINNER KISSING_: CAT_FACE_WITH_CLOSED_EYES FACE
FACE_WITH_CLOSED_EYES FACE_WITH_SMILING_EYES LARGE_: BROWN_CIRCLE BROWN_SQUARE GREEN_CIRCLE
GREEN_SQUARE PURPLE_CIRCLE PURPLE_SQUARE RED_CIRCLE RED_SQUARE YELLOW_CIRCLE YELLOW_SQUARE
LARGE_BLUE_: LARGE_ORANGE_: CIRCLE DIAMOND SQUARE LEFT_: ANGER_BUBBLE HAND_TELEPHONE_RECEIVER
LUGGAGE RIGHT_SANS-SERIF_ARROW SPEECH_BUBBLE THIRD_WHITE_RIGHT_POINTING_INDEX THOUGHT_BUBBLE
TRIANGULAR_ONE_QUARTER_BLOCK WRITING_HAND LEFT_AND_: LOWER_AND_RIGHT_TRIANGULAR_THREE_QUARTERS_BLOCK
LOWER_ONE_EIGHTH_BLOCK RIGHT_TRIANGULAR_HALF_BLOCK UPPER_AND_RIGHT_TRIANGULAR_THREE_QUARTERS_BLOCK
UPPER_ONE_EIGHTH_BLOCK LEFT_HALF_: CIRCLE FOLDER INVERSE_MEDIUM_SHADE_AND_RIGHT_HALF_BLOCK
MEDIUM_SHADE RUNNING_MAN LEFT_HALF_CIRCLE_WITH_: DOT FOUR_DOTS THREE_DOTS TWO_DOTS LEFT-: RIGHT-:
FACING_FIST POINTING_MAGNIFYING_GLASS LEFTWARDS_: ARROW_AND_UPPER_AND_LOWER_ONE_EIGHTH_BLOCK
BACK-TILTED_SHADOWED_WHITE_ARROW BOTTOM-SHADED_WHITE_ARROW COMPRESSED_ARROW FINGER-POST_ARROW
FRONT-TILTED_SHADOWED_WHITE_ARROW HAND HEAVY_ARROW HEAVY_COMPRESSED_ARROW LEFT-SHADED_WHITE_ARROW
RIGHT-SHADED_WHITE_ARROW ROCKET SANS-SERIF_ARROW SQUARED_ARROW TOP_SHADED_WHITE_ARROW
TRIANGLE_ARROWHEAD WHITE_ARROW_WITHIN_TRIANGLE_ARROWHEAD LIGHT_: CHECK_MARK EIGHT_SPOKED_ASTERISK
FIVE_POINTED_BLACK_STAR FIVE_SPOKED_ASTERISK FOUR_POINTED_BLACK_STAR GREEK_CROSS RAIL SALTIRE
SIX_SPOKED_ASTERISK THREE_POINTED_BLACK_STAR TWELVE_POINTED_BLACK_STAR WHITE_SQUARE LIGHTNING_: MOOD
MOOD_BUBBLE LOVE_: HOTEL LETTER LOW_: BATTERY BRIGHTNESS_SYMBOL LOWER_: HALF_MEDIUM_SHADE
RIGHT_SHADOWED_WHITE_CIRCLE RIGHT_TRIANGULAR_MEDIUM_SHADE TRIANGULAR_ONE_QUARTER_BLOCK LOWER_LEFT_:
BALLPOINT_PEN CRAYON FOUNTAIN_PEN PAINTBRUSH PENCIL TRIANGULAR_MEDIUM_SHADE
LOWER_LEFT_BLOCK_DIAGONAL_LOWER_MIDDLE_LEFT_TO_LOWER_:
LOWER_RIGHT_BLOCK_DIAGONAL_UPPER_MIDDLE_LEFT_TO_UPPER_:
UPPER_LEFT_BLOCK_DIAGONAL_UPPER_MIDDLE_LEFT_TO_UPPER_:
UPPER_RIGHT_BLOCK_DIAGONAL_LOWER_MIDDLE_LEFT_TO_LOWER_: CENTRE RIGHT
LOWER_LEFT_BLOCK_DIAGONAL_UPPER_CENTRE_TO_: UPPER_RIGHT_BLOCK_DIAGONAL_UPPER_CENTRE_TO_:
LOWER_MIDDLE_RIGHT LOWER_RIGHT UPPER_MIDDLE_RIGHT LOWER_LEFT_BLOCK_DIAGONAL_UPPER_LEFT_TO_:
UPPER_RIGHT_BLOCK_DIAGONAL_UPPER_LEFT_TO_: LOWER_CENTRE LOWER_MIDDLE_RIGHT UPPER_MIDDLE_RIGHT
LOWER_LEFT_BLOCK_DIAGONAL_UPPER_MIDDLE_LEFT_TO_LOWER_:
LOWER_RIGHT_BLOCK_DIAGONAL_LOWER_MIDDLE_LEFT_TO_UPPER_:
UPPER_LEFT_BLOCK_DIAGONAL_LOWER_MIDDLE_LEFT_TO_UPPER_:
UPPER_RIGHT_BLOCK_DIAGONAL_UPPER_MIDDLE_LEFT_TO_LOWER_: CENTRE MIDDLE_RIGHT RIGHT
LOWER_RIGHT_BLOCK_DIAGONAL_LOWER_CENTRE_TO_: UPPER_LEFT_BLOCK_DIAGONAL_LOWER_CENTRE_TO_:
LOWER_MIDDLE_RIGHT UPPER_MIDDLE_RIGHT UPPER_RIGHT LOWER_RIGHT_BLOCK_DIAGONAL_LOWER_LEFT_TO_:
UPPER_LEFT_BLOCK_DIAGONAL_LOWER_LEFT_TO_: LOWER_MIDDLE_RIGHT UPPER_CENTRE UPPER_MIDDLE_RIGHT
MAHJONG_TILE_: AUTUMN BACK BAMBOO CHRYSANTHEMUM EAST_WIND GREEN_DRAGON JOKER NORTH_WIND
ONE_OF_BAMBOOS ONE_OF_CHARACTERS ONE_OF_CIRCLES ORCHID PLUM RED_DRAGON SIX_OF_BAMBOOS
SIX_OF_CHARACTERS SIX_OF_CIRCLES SOUTH_WIND SPRING SUMMER TWO_OF_BAMBOOS TWO_OF_CHARACTERS
TWO_OF_CIRCLES WEST_WIND WHITE_DRAGON WINTER MAHJONG_TILE_EIGHT_OF_: MAHJONG_TILE_FIVE_OF_:
MAHJONG_TILE_FOUR_OF_: MAHJONG_TILE_NINE_OF_: MAHJONG_TILE_SEVEN_OF_: MAHJONG_TILE_THREE_OF_:
BAMBOOS CHARACTERS CIRCLES MAN_: AND_WOMAN_HOLDING_HANDS DANCING IN_BUSINESS_SUIT_LEVITATING
IN_TUXEDO WITH_GUA_PI_MAO WITH_TURBAN MECHANICAL_: ARM LEG MEDIUM_: BOLD_WHITE_CIRCLE
EIGHT_POINTED_BLACK_STAR EIGHT_SPOKED_ASTERISK FIVE_SPOKED_ASTERISK GREEK_CROSS SALTIRE
SIX_POINTED_BLACK_STAR SIX_SPOKED_ASTERISK WHITE_SQUARE MILITARY_: HELMET MEDAL MOBILE_: PHONE
PHONE_OFF PHONE_WITH_RIGHTWARDS_ARROW_AT_LEFT MONEY_: BAG WITH_WINGS MOON_: CAKE VIEWING_CEREMONY
MOTOR_: BOAT SCOOTER MOUNTAIN_: BICYCLIST CABLEWAY RAILWAY MOUSE_: FACE TRAP MUSICAL_: KEYBOARD
KEYBOARD_WITH_JACKS NOTE SCORE NEGATIVE_CIRCLED_: SQUARE TRIANGLE
NEGATIVE_CIRCLED_LATIN_CAPITAL_LETTER_: NEGATIVE_SQUARED_LATIN_CAPITAL_LETTER_:
PARENTHESIZED_LATIN_CAPITAL_LETTER_: REGIONAL_INDICATOR_SYMBOL_LETTER_:
SQUARED_LATIN_CAPITAL_LETTER_: TAG_LATIN_CAPITAL_LETTER_: TAG_LATIN_SMALL_LETTER_: A B C D E F G H I
J K L M N O P Q R S T U V W X Y Z NEGATIVE_DIAGONAL_: CROSS DIAMOND MIDDLE_RIGHT_TO_LOWER_CENTRE
NEGATIVE_SQUARED_: AB IC PA QUESTION_MARK SA WC NEUTRAL_CHESS_: BISHOP BISHOP_ROTATED_NINETY_DEGREES
BISHOP_ROTATED_TWO_HUNDRED_SEVENTY_DEGREES EQUIHOPPER EQUIHOPPER_ROTATED_NINETY_DEGREES KING
KING_ROTATED_NINETY_DEGREES KING_ROTATED_TWO_HUNDRED_SEVENTY_DEGREES KNIGHT PAWN
PAWN_ROTATED_NINETY_DEGREES PAWN_ROTATED_TWO_HUNDRED_SEVENTY_DEGREES QUEEN
QUEEN_ROTATED_NINETY_DEGREES QUEEN_ROTATED_TWO_HUNDRED_SEVENTY_DEGREES ROOK
ROOK_ROTATED_NINETY_DEGREES ROOK_ROTATED_TWO_HUNDRED_SEVENTY_DEGREES NO_: BICYCLES ENTRY_SIGN
MOBILE_PHONES ONE_UNDER_EIGHTEEN_SYMBOL PEDESTRIANS PIRACY SMOKING_SYMBOL NORTH_: SOUTH_:
EAST_SANS-SERIF_ARROW WEST_SANS-SERIF_ARROW NORTH_EAST_POINTING_: NORTH_WEST_POINTING_:
SOUTH_EAST_POINTING_: SOUTH_WEST_POINTING_: BUD LEAF VINE_LEAF NOTCHED_:
LEFT_SEMICIRCLE_WITH_THREE_DOTS RIGHT_SEMICIRCLE_WITH_THREE_DOTS NOTE_: PAD PAGE OLD_: KEY
PERSONAL_COMPUTER OLDER_: ADULT MAN WOMAN ONCOMING_: AUTOMOBILE BUS FIRE_ENGINE POLICE_CAR TAXI
OPEN_: BOOK FILE_FOLDER FOLDER HANDS_SIGN LOCK OPTICAL_: DISC DISC_ICON PAGE_WITH_: CIRCLED_TEXT
CURL PALM_: DOWN_HAND TREE UP_HAND PERSON_: BOWING_DEEPLY CLIMBING DOING_CARTWHEEL FROWNING
IN_LOTUS_POSITION IN_STEAMY_ROOM RAISING_BOTH_HANDS_IN_CELEBRATION PERSON_WITH_: BLOND_HAIR CROWN
FOLDED_HANDS HEADSCARF POUTING_FACE PIG_: FACE NOSE PLAYING_CARD_: BACK BLACK_JOKER FOOL RED_JOKER
WHITE_JOKER PLAYING_CARD_ACE_OF_: PLAYING_CARD_EIGHT_OF_: PLAYING_CARD_FIVE_OF_:
PLAYING_CARD_FOUR_OF_: PLAYING_CARD_JACK_OF_: PLAYING_CARD_KING_OF_: PLAYING_CARD_KNIGHT_OF_:
PLAYING_CARD_NINE_OF_: PLAYING_CARD_QUEEN_OF_: PLAYING_CARD_SEVEN_OF_: PLAYING_CARD_SIX_OF_:
PLAYING_CARD_TEN_OF_: PLAYING_CARD_THREE_OF_: PLAYING_CARD_TWO_OF_: CLUBS DIAMONDS HEARTS SPADES
PLAYING_CARD_TRUMP-: 1 10 11 12 13 14 15 16 17 18 19 2 20 21 3 4 5 6 7 8 9 POLICE_: CAR
CARS_REVOLVING_LIGHT OFFICER PREGNANT_: MAN PERSON WOMAN RACING_: CAR MOTORCYCLE RAILWAY_: CAR TRACK
RAISED_: BACK_OF_HAND MC_SIGN MD_SIGN MR_SIGN RAISED_HAND_WITH_: FINGERS_SPLAYED
PART_BETWEEN_MIDDLE_AND_RING_FINGERS RED_: APPLE GIFT_ENVELOPE REVERSE_: CHECKER_BOARD
LIGHT_FOUR_POINTED_PINWHEEL_STAR REVERSED_: HAND_WITH_MIDDLE_FINGER_EXTENDED
RAISED_HAND_WITH_FINGERS_SPLAYED THUMBS_DOWN_SIGN THUMBS_UP_SIGN VICTORY_HAND RICE_: BALL CRACKER
RIGHT_: AND_LOWER_ONE_EIGHTH_BLOCK AND_UPPER_ONE_EIGHTH_BLOCK ANGER_BUBBLE FIVE_EIGHTHS_BLOCK
HAND_TELEPHONE_RECEIVER ONE_QUARTER_BLOCK OPEN_SQUARED_DOT SEVEN_EIGHTHS_BLOCK SPEAKER SPEECH_BUBBLE
THIRD_WHITE_RIGHT_POINTING_INDEX THOUGHT_BUBBLE THREE_EIGHTHS_BLOCK THREE_QUARTERS_BLOCK
TRIANGULAR_ONE_QUARTER_BLOCK RIGHT_HALF_: FOLDER MEDIUM_SHADE RUNNING_MAN RIGHT_SPEAKER_WITH_:
ONE_SOUND_WAVE THREE_SOUND_WAVES RIGHTWARDS_: ARROW_AND_UPPER_AND_LOWER_ONE_EIGHTH_BLOCK
BACK-TILTED_SHADOWED_WHITE_ARROW BOTTOM_SHADED_WHITE_ARROW COMPRESSED_ARROW FINGER-POST_ARROW
FRONT-TILTED_SHADOWED_WHITE_ARROW HAND HEAVY_ARROW HEAVY_COMPRESSED_ARROW LEFT-SHADED_WHITE_ARROW
RIGHT-SHADED_WHITE_ARROW ROCKET SANS-SERIF_ARROW SQUARED_ARROW TOP_SHADED_WHITE_ARROW
TRIANGLE_ARROWHEAD WHITE_ARROW_WITHIN_TRIANGLE_ARROWHEAD ROLLER_: COASTER SKATE ROUND_: PUSHPIN
TARGET ROUNDED_SYMBOL_FOR_: CAI FU LU SHOU SHUANGXI XI SAFETY_: PIN VEST SANS-SERIF_HEAVY_:
DOUBLE_COMMA_QUOTATION_MARK_ORNAMENT DOUBLE_TURNED_COMMA_QUOTATION_MARK_ORNAMENT
LOW_DOUBLE_COMMA_QUOTATION_MARK_ORNAMENT SEGMENTED_DIGIT_: TAG_DIGIT_: EIGHT FIVE FOUR NINE ONE
SEVEN SIX THREE TWO ZERO SHOPPING_: BAGS TROLLEY SIDEWAYS_BLACK_: SIDEWAYS_WHITE_:
DOWN_POINTING_INDEX LEFT_POINTING_INDEX RIGHT_POINTING_INDEX UP_POINTING_INDEX SIX_POINTED_:
PINWHEEL_STAR STAR_WITH_MIDDLE_DOT SLEEPING_: ACCOMMODATION FACE SYMBOL SLIGHTLY_: FROWNING_FACE
SMILING_FACE SMALL_: AIRPLANE BLUE_DIAMOND ORANGE_DIAMOND SMILING_CAT_FACE_WITH_: HEART-SHAPED_EYES
OPEN_MOUTH SMILING_FACE_WITH_: HALO HEART-SHAPED_EYES HORNS OPEN_MOUTH SMILING_EYES
SMILING_EYES_AND_HAND_COVERING_MOUTH SMILING_EYES_AND_THREE_HEARTS SUNGLASSES TEAR
SMILING_FACE_WITH_OPEN_MOUTH_AND_: COLD_SWEAT SMILING_EYES TIGHTLY-CLOSED_EYES SOFT_: ICE_CREAM
SHELL_FLOPPY_DISK SPEAKER_WITH_: CANCELLATION_STROKE ONE_SOUND_WAVE THREE_SOUND_WAVES SPIRAL_:
CALENDAR_PAD NOTE_PAD SHELL SQUARE_: DJ HIRAGANA_HOKA TARGET SQUARED_: CL COOL EIGHT_K
FIVE_POINT_ONE FOUR_K FREE HC HDR HI-RES HV ID LATIN_SMALL_LETTER_D LOSSLESS MV NEW NG OK
ONE_HUNDRED_TWENTY_P PPV SD SECOND_SCREEN SEVEN_POINT_ONE SHV SIXTY_P SOS SS THREE_D
TWENTY-TWO_POINT_TWO TWO_K UHD UP_WITH_EXCLAMATION_MARK VOD VS WC SQUARED_CJK_UNIFIED_IDEOGRAPH-:
4E00 4E09 4E2D 4E8C 4EA4 518D 521D 524D 5272 53CC 53F3 5408 5439 55B6 58F0 591A 5929 5B57 5DE6 5F8C
624B 6253 6295 6307 6355 6599 65B0 6620 6708 6709 6E80 6F14 7121 751F 7533 7981 7A7A 7D42 89E3 8CA9
8D70 904A 914D SQUARED_KATAKANA_: DE KOKO SA STICK_FIGURE_: LEANING_LEFT LEANING_RIGHT
WITH_ARMS_RAISED WITH_DRESS TAG_: AMPERSAND APOSTROPHE ASTERISK CIRCUMFLEX_ACCENT COLON COMMA
COMMERCIAL_AT DOLLAR_SIGN EQUALS_SIGN EXCLAMATION_MARK FULL_STOP GRAVE_ACCENT GREATER-THAN_SIGN
HYPHEN-MINUS LESS-THAN_SIGN LOW_LINE NUMBER_SIGN PERCENT_SIGN PLUS_SIGN QUESTION_MARK QUOTATION_MARK
REVERSE_SOLIDUS SEMICOLON SOLIDUS SPACE TILDE VERTICAL_LINE TAG_LEFT_: TAG_RIGHT_: CURLY_BRACKET
PARENTHESIS SQUARE_BRACKET TELEPHONE_: ON_TOP_OF_MODEM RECEIVER RECEIVER_WITH_PAGE THIN_:
GREEK_CROSS SALTIRE THREE_: BUTTON_MOUSE NETWORKED_COMPUTERS POINTED_BLACK_STAR SPEECH_BUBBLES
THREE_RAYS_: ABOVE BELOW LEFT RIGHT THUMBS_: DOWN_SIGN UP_SIGN TOP_: HAT WITH_UPWARDS_ARROW_ABOVE
TORTOISE_SHELL_BRACKETED_CJK_UNIFIED_IDEOGRAPH-: 4E09 4E8C 52DD 5B89 6253 6557 672C 70B9 76D7
TRIANGULAR_: FLAG_ON_POST RULER TROPICAL_: DRINK FISH TURNED_: NORTH_EAST_POINTING_LEAF
NORTH_WEST_POINTING_LEAF OK_HAND_SIGN SOUTH_EAST_POINTING_LEAF SOUTH_WEST_POINTING_LEAF TWO_:
BUTTON_MOUSE HEARTS MEN_HOLDING_HANDS SPEECH_BUBBLES WOMEN_HOLDING_HANDS UP-POINTING_: AIRPLANE
MILITARY_AIRPLANE RED_TRIANGLE SMALL_AIRPLANE SMALL_RED_TRIANGLE UPPER_: FIVE_EIGHTHS_BLOCK
LEFT_TO_LOWER_RIGHT_FILL LEFT_TRIANGULAR_MEDIUM_SHADE ONE_QUARTER_BLOCK SEVEN_EIGHTHS_BLOCK
THREE_EIGHTHS_BLOCK THREE_QUARTERS_BLOCK TRIANGULAR_ONE_QUARTER_BLOCK UPPER_AND_:
LEFT_AND_LOWER_TRIANGULAR_THREE_QUARTERS_BLOCK LOWER_ONE_EIGHTH_BLOCK LOWER_TRIANGULAR_HALF_BLOCK
RIGHT_AND_LOWER_TRIANGULAR_THREE_QUARTERS_BLOCK UPPER_HALF_:
BLOCK_AND_LOWER_HALF_INVERSE_MEDIUM_SHADE INVERSE_MEDIUM_SHADE_AND_LOWER_HALF_BLOCK MEDIUM_SHADE
UPPER_RIGHT_: SHADOWED_WHITE_CIRCLE TO_LOWER_LEFT_FILL TRIANGULAR_MEDIUM_SHADE
VERTICAL_ONE_EIGHTH_BLOCK-: 2 3 4 5 6 7 VERY_HEAVY_: EIGHT_POINTED_BLACK_STAR EIGHT_SPOKED_ASTERISK
FIVE_SPOKED_ASTERISK GREEK_CROSS REVERSE_SOLIDUS SALTIRE SIX_SPOKED_ASTERISK SOLIDUS WHITE_CIRCLE
WHITE_SQUARE VIDEO_: CAMERA GAME WANING_: WAXING_: CRESCENT_MOON_SYMBOL GIBBOUS_MOON_SYMBOL WATER_:
BUFFALO CLOSET POLO WAVE WAVING_: BLACK_FLAG HAND_SIGN WHITE_FLAG WHITE_:
CIRCLE_CONTAINING_BLACK_SMALL_CIRCLE FLOWER HARD_SHELL_FLOPPY_DISK HEART
HEAVY_SALTIRE_WITH_ROUNDED_CORNERS LATIN_CROSS LEFT_POINTING_BACKHAND_INDEX
LOZENGE_CONTAINING_BLACK_SMALL_LOZENGE PENNANT RIGHT_POINTING_BACKHAND_INDEX SQUARE_BUTTON SUN
SUN_WITH_SMALL_CLOUD TOUCHTONE_TELEPHONE UP_POINTING_BACKHAND_INDEX UP-POINTING_CHEVRON
WHITE_ARROW_SHAFT_WIDTH_: ONE TWO_THIRDS WHITE_DIAMOND_CONTAINING_BLACK_: MEDIUM_DIAMOND
VERY_SMALL_DIAMOND WHITE_DOWN_POINTING_: BACKHAND_INDEX LEFT_HAND_INDEX
WHITE_SQUARE_CONTAINING_BLACK_: MEDIUM_SQUARE VERY_SMALL_SQUARE WHITE_SUN_BEHIND_: CLOUD
CLOUD_WITH_RAIN WIDE-HEADED_DOWNWARDS_: WIDE-HEADED_LEFTWARDS_: WIDE-HEADED_NORTH_EAST_:
WIDE-HEADED_NORTH_WEST_: WIDE-HEADED_RIGHTWARDS_: WIDE-HEADED_SOUTH_EAST_: WIDE-HEADED_SOUTH_WEST_:
WIDE-HEADED_UPWARDS_: BARB_ARROW HEAVY_BARB_ARROW LIGHT_BARB_ARROW MEDIUM_BARB_ARROW
VERY_HEAVY_BARB_ARROW WIND_: BLOWING_FACE CHIME WOMANS_: BOOTS CLOTHES HAT SANDAL XIANGQI_BLACK_:
XIANGQI_RED_: CANNON CHARIOT ELEPHANT GENERAL HORSE MANDARIN SOLDIER
"

end Sabotage.Text.CharacterName

/-!
# Other names

Names that characters have beside or instead of their own: those of controls, abbreviations and
corrections.
-/

namespace Sabotage.Text.CharacterName

/-- The listing of these names. -/
def otherNames : String := "
: ACK ACKNOWLEDGE ALERT ALM APC APPLICATION_PROGRAM_COMMAND BACKSPACE BEL BOM BPH
BREAK_PERMITTED_HERE BS BYTE_ORDER_MARK BYZANTINE_MUSICAL_SYMBOL_FTHORA_SKLIRON_CHROMA_VASIS CAN
CANCEL CANCEL_CHARACTER CARRIAGE_RETURN CCH CGJ CHARACTER_TABULATION CONTROL_SEQUENCE_INTRODUCER CR
CSI DATA_LINK_ESCAPE DC1 DC2 DC3 DC4 DCS DEL DELETE DLE ENQ ENQUIRY EOL EOM EOT EPA ESA ESC ESCAPE
ETB ETX FF FILE_SEPARATOR FORM_FEED FS FSI FVS1 FVS2 FVS3 FVS4 GROUP_SEPARATOR GS
HANGUL_JONGSEONG_SSANGYESIEUNG HENTAIGANA_LETTER_E-1 HIGH_OCTET_PRESET HOP HORIZONTAL_TABULATION HT
HTJ HTS IND INDEX KANNADA_LETTER_LLLA LEFTWARDS_TRIANGLE-HEADED_ARROW_WITH_DOUBLE_VERTICAL_STROKE LF
LRE LRI LRM LRO MESSAGE_WAITING MMSP MVS MW MYANMAR_LETTER_KHAMTI_LLA NAK NBH NBSP
NEGATIVE_ACKNOWLEDGE NEL NEW_LINE NEXT_LINE NL NNBSP NO_BREAK_HERE NUL NULL OPERATING_SYSTEM_COMMAND
OSC PAD PADDING_CHARACTER PDF PDI PLD PLU PM
PRESENTATION_FORM_FOR_VERTICAL_RIGHT_WHITE_LENTICULAR_BRACKET PRIVACY_MESSAGE PU1 PU2
RECORD_SEPARATOR RI RIGHTWARDS_TRIANGLE-HEADED_ARROW_WITH_DOUBLE_VERTICAL_STROKE RLE RLI RLM RLO RS
SCI SET_TRANSMIT_STATE SGC SHY SI SO SOH SOS SP SPA SS2 SS3 SSA ST STRING_TERMINATOR STS STX SUB
SUBSTITUTE SYN SYNCHRONOUS_IDLE SYRIAC_SUBLINEAR_COLON_SKEWED_LEFT TAB
TIBETAN_MARK_BKA-_SHOG_GI_MGO_RGYAN UNIT_SEPARATOR US VT VTS WEIERSTRASS_ELLIPTIC_FUNCTION WJ
YI_SYLLABLE_ITERATION_MARK ZWJ ZWNBSP ZWNJ ZWSP CHARACTER_TABULATION_: HORIZONTAL_TABULATION_: SET
WITH_JUSTIFICATION CUNEIFORM_SIGN_NU11_: OVER_NU11_BUR_OVER_BUR TENU DEVICE_CONTROL_: FOUR ONE
STRING THREE TWO END_OF_: GUARDED_AREA LINE MEDIUM PROTECTED_AREA SELECTED_AREA TEXT TRANSMISSION
TRANSMISSION_BLOCK HANGUL_JONGSEONG_YESIEUNG-: KHIEUKH KIYEOK SSANGKIYEOK INFORMATION_SEPARATOR_:
FOUR ONE THREE TWO LAO_LETTER_: FO_FAY FO_FON LO RO LATIN_: CAPITAL_LETTER_GHA SMALL_LETTER_GHA
LINE_: FEED TABULATION TABULATION_SET LOCKING-SHIFT_: ONE ZERO MEDEFAIDRIN_CAPITAL_LETTER_:
MEDEFAIDRIN_SMALL_LETTER_: H NG MICR_: DASH_SYMBOL ON_US_SYMBOL PARTIAL_LINE_: BACKWARD DOWN FORWARD
UP PRIVATE_: USE_ONE USE_TWO USE-1 USE-2 REVERSE_: INDEX LINE_FEED SHIFT_: IN OUT SINGLE_:
CHARACTER_INTRODUCER GRAPHIC_CHARACTER_INTRODUCER SHIFT_THREE SHIFT_TWO SINGLE-SHIFT-: 2 3
START_OF_: GUARDED_AREA HEADING PROTECTED_AREA SELECTED_AREA STRING TEXT VERTICAL_: TABULATION
TABULATION_SET
"

end Sabotage.Text.CharacterName

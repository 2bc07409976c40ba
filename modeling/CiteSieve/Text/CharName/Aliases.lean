/-!
# Second names
-/

namespace CiteSieve.Text

/-- Second names of characters, among them those of control characters, as entries for
`CharName.Cursor`. -/
def aliasNames : List String := [
  "=0000 NUL|=0000 NULL|=0001 SOH|=0001 START OF HEADING|=0002 START OF TEXT|=0002 STX",
  "=0003 END OF TEXT|=0003 ETX|=0004 END OF TRANSMISSION|=0004 EOT|=0005 ENQ|=0005 ENQUIRY",
  "=0006 ACK|=0006 ACKNOWLEDGE|=0007 ALERT|=0007 BEL|=0008 BACKSPACE|=0008 BS",
  "=0009 CHARACTER TABULATION|=0009 HORIZONTAL TABULATION|=0009 HT|=0009 TAB|=000A END OF LINE",
  "=000A EOL|=000A LF|=000A LINE FEED|=000A NEW LINE|=000A NL|=000B LINE TABULATION",
  "=000B VERTICAL TABULATION|=000B VT|=000C FF|=000C FORM FEED|=000D CARRIAGE RETURN|=000D CR",
  "=000E LOCKING-SHIFT ONE|=000E SHIFT OUT|=000E SO|=000F LOCKING-SHIFT ZERO|=000F SHIFT IN",
  "=000F SI|=0010 DATA LINK ESCAPE|=0010 DLE|=0011 DC1|=0011 DEVICE CONTROL ONE|=0012 DC2",
  "=0012 DEVICE CONTROL TWO|=0013 DC3|=0013 DEVICE CONTROL THREE|=0014 DC4",
  "=0014 DEVICE CONTROL FOUR|=0015 NAK|=0015 NEGATIVE ACKNOWLEDGE|=0016 SYN",
  "=0016 SYNCHRONOUS IDLE|=0017 END OF TRANSMISSION BLOCK|=0017 ETB|=0018 CAN|=0018 CANCEL",
  "=0019 END OF MEDIUM|=0019 EOM|=001A SUB|=001A SUBSTITUTE|=001B ESC|=001B ESCAPE",
  "=001C FILE SEPARATOR|=001C FS|=001C INFORMATION SEPARATOR FOUR|=001D GROUP SEPARATOR|=001D GS",
  "=001D INFORMATION SEPARATOR THREE|=001E INFORMATION SEPARATOR TWO|=001E RECORD SEPARATOR",
  "=001E RS|=001F INFORMATION SEPARATOR ONE|=001F UNIT SEPARATOR|=001F US|=0020 SP|=007F DEL",
  "=007F DELETE|=0080 PAD|=0080 PADDING CHARACTER|=0081 HIGH OCTET PRESET|=0081 HOP|=0082 BPH",
  "=0082 BREAK PERMITTED HERE|=0083 NBH|=0083 NO BREAK HERE|=0084 IND|=0084 INDEX|=0085 NEL",
  "=0085 NEXT LINE|=0086 SSA|=0086 START OF SELECTED AREA|=0087 END OF SELECTED AREA|=0087 ESA",
  "=0088 CHARACTER TABULATION SET|=0088 HORIZONTAL TABULATION SET|=0088 HTS",
  "=0089 CHARACTER TABULATION WITH JUSTIFICATION|=0089 HORIZONTAL TABULATION WITH JUSTIFICATION",
  "=0089 HTJ|=008A LINE TABULATION SET|=008A VERTICAL TABULATION SET|=008A VTS",
  "=008B PARTIAL LINE DOWN|=008B PARTIAL LINE FORWARD|=008B PLD|=008C PARTIAL LINE BACKWARD",
  "=008C PARTIAL LINE UP|=008C PLU|=008D REVERSE INDEX|=008D REVERSE LINE FEED|=008D RI",
  "=008E SINGLE SHIFT TWO|=008E SINGLE-SHIFT-2|=008E SS2|=008F SINGLE SHIFT THREE",
  "=008F SINGLE-SHIFT-3|=008F SS3|=0090 DCS|=0090 DEVICE CONTROL STRING|=0091 PRIVATE USE ONE",
  "=0091 PRIVATE USE-1|=0091 PU1|=0092 PRIVATE USE TWO|=0092 PRIVATE USE-2|=0092 PU2",
  "=0093 SET TRANSMIT STATE|=0093 STS|=0094 CANCEL CHARACTER|=0094 CCH|=0095 MESSAGE WAITING",
  "=0095 MW|=0096 SPA|=0096 START OF GUARDED AREA|=0096 START OF PROTECTED AREA",
  "=0097 END OF GUARDED AREA|=0097 END OF PROTECTED AREA|=0097 EPA|=0098 SOS",
  "=0098 START OF STRING|=0099 SGC|=0099 SINGLE GRAPHIC CHARACTER INTRODUCER|=009A SCI",
  "=009A SINGLE CHARACTER INTRODUCER|=009B CONTROL SEQUENCE INTRODUCER|=009B CSI|=009C ST",
  "=009C STRING TERMINATOR|=009D OPERATING SYSTEM COMMAND|=009D OSC|=009E PM",
  "=009E PRIVACY MESSAGE|=009F APC|=009F APPLICATION PROGRAM COMMAND|=00A0 NBSP|=00AD SHY",
  "=01A2 LATIN CAPITAL LETTER GHA|=01A3 LATIN SMALL LETTER GHA|=034F CGJ|=061C ALM",
  "=0709 SYRIAC SUBLINEAR COLON SKEWED LEFT|=0CDE KANNADA LETTER LLLA|=0E9D LAO LETTER FO FON",
  "=0E9F LAO LETTER FO FAY|=0EA3 LAO LETTER RO|=0EA5 LAO LETTER LO",
  "=11EC HANGUL JONGSEONG YESIEUNG-KIYEOK|=11ED HANGUL JONGSEONG YESIEUNG-SSANGKIYEOK",
  "=11EE HANGUL JONGSEONG SSANGYESIEUNG|=11EF HANGUL JONGSEONG YESIEUNG-KHIEUKH|=180B FVS1",
  "=180C FVS2|=180D FVS3|=180E MVS|=180F FVS4|=200B ZWSP|=200C ZWNJ|=200D ZWJ|=200E LRM|=200F RLM",
  "=202A LRE|=202B RLE|=202C PDF|=202D LRO|=202E RLO|=202F NNBSP|=205F MMSP|=2060 WJ|=2066 LRI",
  "=2067 RLI|=2068 FSI|=2069 PDI|=2118 WEIERSTRASS ELLIPTIC FUNCTION|=2448 MICR ON US SYMBOL",
  "=2449 MICR DASH SYMBOL|=2B7A LEFTWARDS TRIANGLE-HEADED ARROW WITH DOUBLE VERTICAL STROKE",
  "=2B7C RIGHTWARDS TRIANGLE-HEADED ARROW WITH DOUBLE VERTICAL STROKE",
  "=A015 YI SYLLABLE ITERATION MARK",
  "=FE18 PRESENTATION FORM FOR VERTICAL RIGHT WHITE LENTICULAR BRACKET|=FEFF BOM",
  "=FEFF BYTE ORDER MARK|=FEFF ZWNBSP|=122D4 CUNEIFORM SIGN NU11 TENU",
  "=122D5 CUNEIFORM SIGN NU11 OVER NU11 BUR OVER BUR|=16E56 MEDEFAIDRIN CAPITAL LETTER H",
  "=16E57 MEDEFAIDRIN CAPITAL LETTER NG|=16E76 MEDEFAIDRIN SMALL LETTER H",
  "=16E77 MEDEFAIDRIN SMALL LETTER NG|=1B001 HENTAIGANA LETTER E-1",
  "=1D0C5 BYZANTINE MUSICAL SYMBOL FTHORA SKLIRON CHROMA VASIS"]

end CiteSieve.Text

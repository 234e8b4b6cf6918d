set_option autoImplicit false

/-!
# Names of characters: Aliases

Further names, most of them of control characters, which have no others.

An alias leads to its character like any other name.  The table stands by itself, since its entries
are not in the order of the code points that they lead to in the other tables; each of them names
its code point.
-/

namespace BoundSql.Text

/-- Further names of characters. -/
def aliasNames : String :=
  String.join [
    "0=0 NUL;0=0 NULL;1=0 SOH;1=0 START OF HEADING;2=0 START OF TEXT;2=0 STX;3=0 END OF TEXT;3=0 ",
    "ETX;4=0 END OF TRANSMISSION;4=0 EOT;5=0 ENQ;5=0 ENQUIRY;6=0 ACK;6=0 ACKNOWLEDGE;7=0 ALERT;",
    "7=0 BEL;8=0 BACKSPACE;8=0 BS;9=0 CHARACTER TABULATION;9=0 HORIZONTAL TABULATION;9=0 HT;9=0 ",
    "TAB;A=0 END OF LINE;A=0 EOL;A=0 LF;A=0 LINE FEED;A=0 NEW LINE;A=0 NL;B=0 LINE TABULATION;",
    "B=0 VERTICAL TABULATION;B=0 VT;C=0 FF;C=0 FORM FEED;D=0 CARRIAGE RETURN;D=0 CR;E=0 ",
    "LOCKING-SHIFT ONE;E=0 SHIFT OUT;E=0 SO;F=0 LOCKING-SHIFT ZERO;F=0 SHIFT IN;F=0 SI;10=0 DATA ",
    "LINK ESCAPE;10=0 DLE;11=0 DC1;11=0 DEVICE CONTROL ONE;12=0 DC2;12=0 DEVICE CONTROL TWO;13=0 ",
    "DC3;13=0 DEVICE CONTROL THREE;14=0 DC4;14=0 DEVICE CONTROL FOUR;15=0 NAK;15=0 NEGATIVE ",
    "ACKNOWLEDGE;16=0 SYN;16=0 SYNCHRONOUS IDLE;17=0 END OF TRANSMISSION BLOCK;17=0 ETB;18=0 CAN;",
    "18=0 CANCEL;19=0 END OF MEDIUM;19=0 EOM;1A=0 SUB;1A=0 SUBSTITUTE;1B=0 ESC;1B=0 ESCAPE;1C=0 ",
    "FILE SEPARATOR;1C=0 FS;1C=0 INFORMATION SEPARATOR FOUR;1D=0 GROUP SEPARATOR;1D=0 GS;1D=0 ",
    "INFORMATION SEPARATOR THREE;1E=0 INFORMATION SEPARATOR TWO;1E=0 RECORD SEPARATOR;1E=0 RS;",
    "1F=0 INFORMATION SEPARATOR ONE;1F=0 UNIT SEPARATOR;1F=0 US;20=0 SP;7F=0 DEL;7F=0 DELETE;",
    "80=0 PAD;80=0 PADDING CHARACTER;81=0 HIGH OCTET PRESET;81=0 HOP;82=0 BPH;82=0 BREAK ",
    "PERMITTED HERE;83=0 NBH;83=0 NO BREAK HERE;84=0 IND;84=0 INDEX;85=0 NEL;85=0 NEXT LINE;86=0 ",
    "SSA;86=0 START OF SELECTED AREA;87=0 END OF SELECTED AREA;87=0 ESA;88=0 CHARACTER ",
    "TABULATION SET;88=0 HORIZONTAL TABULATION SET;88=0 HTS;89=0 CHARACTER TABULATION WITH ",
    "JUSTIFICATION;89=0 HORIZONTAL TABULATION WITH JUSTIFICATION;89=0 HTJ;8A=0 LINE TABULATION ",
    "SET;8A=0 VERTICAL TABULATION SET;8A=0 VTS;8B=0 PARTIAL LINE DOWN;8B=0 PARTIAL LINE FORWARD;",
    "8B=0 PLD;8C=0 PARTIAL LINE BACKWARD;8C=0 PARTIAL LINE UP;8C=0 PLU;8D=0 REVERSE INDEX;8D=0 ",
    "REVERSE LINE FEED;8D=0 RI;8E=0 SINGLE SHIFT TWO;8E=0 SINGLE-SHIFT-2;8E=0 SS2;8F=0 SINGLE ",
    "SHIFT THREE;8F=0 SINGLE-SHIFT-3;8F=0 SS3;90=0 DCS;90=0 DEVICE CONTROL STRING;91=0 PRIVATE ",
    "USE ONE;91=0 PRIVATE USE-1;91=0 PU1;92=0 PRIVATE USE TWO;92=0 PRIVATE USE-2;92=0 PU2;93=0 ",
    "SET TRANSMIT STATE;93=0 STS;94=0 CANCEL CHARACTER;94=0 CCH;95=0 MESSAGE WAITING;95=0 MW;",
    "96=0 SPA;96=0 START OF GUARDED AREA;96=0 START OF PROTECTED AREA;97=0 END OF GUARDED AREA;",
    "97=0 END OF PROTECTED AREA;97=0 EPA;98=0 SOS;98=0 START OF STRING;99=0 SGC;99=0 SINGLE ",
    "GRAPHIC CHARACTER INTRODUCER;9A=0 SCI;9A=0 SINGLE CHARACTER INTRODUCER;9B=0 CONTROL ",
    "SEQUENCE INTRODUCER;9B=0 CSI;9C=0 ST;9C=0 STRING TERMINATOR;9D=0 OPERATING SYSTEM COMMAND;",
    "9D=0 OSC;9E=0 PM;9E=0 PRIVACY MESSAGE;9F=0 APC;9F=0 APPLICATION PROGRAM COMMAND;A0=0 NBSP;",
    "AD=0 SHY;1A2=0 LATIN CAPITAL LETTER GHA;1A3=0 LATIN SMALL LETTER GHA;34F=0 CGJ;61C=0 ALM;",
    "709=0 SYRIAC SUBLINEAR COLON SKEWED LEFT;CDE=0 KANNADA LETTER LLLA;E9D=0 LAO LETTER FO FON;",
    "E9F=0 LAO LETTER FO FAY;EA3=0 LAO LETTER RO;EA5=0 LAO LETTER LO;FD0=0 TIBETAN MARK BKA- ",
    "SHOG GI MGO RGYAN;11EC=0 HANGUL JONGSEONG YESIEUNG-KIYEOK;11ED=0 HANGUL JONGSEONG ",
    "YESIEUNG-SSANGKIYEOK;11EE=0 HANGUL JONGSEONG SSANGYESIEUNG;11EF=0 HANGUL JONGSEONG ",
    "YESIEUNG-KHIEUKH;180B=0 FVS1;180C=0 FVS2;180D=0 FVS3;180E=0 MVS;180F=0 FVS4;200B=0 ZWSP;",
    "200C=0 ZWNJ;200D=0 ZWJ;200E=0 LRM;200F=0 RLM;202A=0 LRE;202B=0 RLE;202C=0 PDF;202D=0 LRO;",
    "202E=0 RLO;202F=0 NNBSP;205F=0 MMSP;2060=0 WJ;2066=0 LRI;2067=0 RLI;2068=0 FSI;2069=0 PDI;",
    "2118=0 WEIERSTRASS ELLIPTIC FUNCTION;2448=0 MICR ON US SYMBOL;2449=0 MICR DASH SYMBOL;",
    "2B7A=0 LEFTWARDS TRIANGLE-HEADED ARROW WITH DOUBLE VERTICAL STROKE;2B7C=0 RIGHTWARDS ",
    "TRIANGLE-HEADED ARROW WITH DOUBLE VERTICAL STROKE;A015=0 YI SYLLABLE ITERATION MARK;AA6E=0 ",
    "MYANMAR LETTER KHAMTI LLA;FE18=0 PRESENTATION FORM FOR VERTICAL RIGHT WHITE LENTICULAR ",
    "BRACKET;FEFF=0 BOM;FEFF=0 BYTE ORDER MARK;FEFF=0 ZWNBSP;122D4=0 CUNEIFORM SIGN NU11 TENU;",
    "122D5=0 CUNEIFORM SIGN NU11 OVER NU11 BUR OVER BUR;16E56=0 MEDEFAIDRIN CAPITAL LETTER H;",
    "16E57=0 MEDEFAIDRIN CAPITAL LETTER NG;16E76=0 MEDEFAIDRIN SMALL LETTER H;16E77=0 ",
    "MEDEFAIDRIN SMALL LETTER NG;1B001=0 HENTAIGANA LETTER E-1;1D0C5=0 BYZANTINE MUSICAL SYMBOL ",
    "FTHORA SKLIRON CHROMA VASIS"]

end BoundSql.Text

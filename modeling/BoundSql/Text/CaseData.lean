set_option autoImplicit false

/-!
# Data of the case mappings

Upper case, lower case, title case and folded case of the characters of Unicode 14.  Code points
are hexadecimal and entries are separated by spaces.  An entry is `code=image`, where the code
points of the image are separated by commas, or `code+count=first` for `count` further code points
in a row whose images follow each other too, or `code*count=first` for every second code point.

The tables are read once into runs (`CaseRun`), and nothing else looks into these texts.  They hold
the characters whose image differs from themselves, so that a character which is in no table is its
own image.
-/

namespace BoundSql.Text

/-- Characters that differ from their upper case. -/
def upperData : String :=
  String.join [
    "61+19=41 B5=39C DF=53,53 E0+16=C0 F8+6=D8 FF=178 101*17=100 131=49 133*2=132 13A*7=139 ",
    "149=2BC,4E 14B*16=14A 17A*2=179 17F=53 180=243 183*1=182 188=187 18C=18B 192=191 195=1F6 ",
    "199=198 19A=23D 19E=220 1A1*2=1A0 1A8=1A7 1AD=1AC 1B0=1AF 1B4*1=1B3 1B9=1B8 1BD=1BC ",
    "1BF=1F7 1C5=1C4 1C6=1C4 1C8=1C7 1C9=1C7 1CB=1CA 1CC=1CA 1CE*7=1CD 1DD=18E 1DF*8=1DE ",
    "1F0=4A,30C 1F2=1F1 1F3=1F1 1F5=1F4 1F9*13=1F8 223*8=222 23C=23B 23F+1=2C7E 242=241 ",
    "247*4=246 250=2C6F 251=2C6D 252=2C70 253=181 254=186 256+1=189 259=18F 25B=190 25C=A7AB ",
    "260=193 261=A7AC 263=194 265=A78D 266=A7AA 268=197 269=196 26A=A7AE 26B=2C62 26C=A7AD ",
    "26F=19C 271=2C6E 272=19D 275=19F 27D=2C64 280=1A6 282=A7C5 283=1A9 287=A7B1 288=1AE ",
    "289=244 28A+1=1B1 28C=245 292=1B7 29D=A7B2 29E=A7B0 345=399 371*1=370 377=376 37B+2=3FD ",
    "390=399,308,301 3AC=386 3AD+2=388 3B0=3A5,308,301 3B1+10=391 3C2=3A3 3C3+8=3A3 3CC=38C ",
    "3CD+1=38E 3D0=392 3D1=398 3D5=3A6 3D6=3A0 3D7=3CF 3D9*B=3D8 3F0=39A 3F1=3A1 3F2=3F9 ",
    "3F3=37F 3F5=395 3F8=3F7 3FB=3FA 430+1F=410 450+F=400 461*10=460 48B*1A=48A 4C2*6=4C1 ",
    "4CF=4C0 4D1*2F=4D0 561+25=531 587=535,552 10D0+2A=1C90 10FD+2=1CBD 13F8+5=13F0 1C80=412 ",
    "1C81=414 1C82=41E 1C83+1=421 1C85=422 1C86=42A 1C87=462 1C88=A64A 1D79=A77D 1D7D=2C63 ",
    "1D8E=A7C6 1E01*4A=1E00 1E96=48,331 1E97=54,308 1E98=57,30A 1E99=59,30A 1E9A=41,2BE ",
    "1E9B=1E60 1EA1*2F=1EA0 1F00+7=1F08 1F10+5=1F18 1F20+7=1F28 1F30+7=1F38 1F40+5=1F48 ",
    "1F50=3A5,313 1F51*3=1F59 1F52=3A5,313,300 1F54=3A5,313,301 1F56=3A5,313,342 1F60+7=1F68 ",
    "1F70+1=1FBA 1F72+3=1FC8 1F76+1=1FDA 1F78+1=1FF8 1F7A+1=1FEA 1F7C+1=1FFA 1F80=1F08,399 ",
    "1F81=1F09,399 1F82=1F0A,399 1F83=1F0B,399 1F84=1F0C,399 1F85=1F0D,399 1F86=1F0E,399 ",
    "1F87=1F0F,399 1F88=1F08,399 1F89=1F09,399 1F8A=1F0A,399 1F8B=1F0B,399 1F8C=1F0C,399 ",
    "1F8D=1F0D,399 1F8E=1F0E,399 1F8F=1F0F,399 1F90=1F28,399 1F91=1F29,399 1F92=1F2A,399 ",
    "1F93=1F2B,399 1F94=1F2C,399 1F95=1F2D,399 1F96=1F2E,399 1F97=1F2F,399 1F98=1F28,399 ",
    "1F99=1F29,399 1F9A=1F2A,399 1F9B=1F2B,399 1F9C=1F2C,399 1F9D=1F2D,399 1F9E=1F2E,399 ",
    "1F9F=1F2F,399 1FA0=1F68,399 1FA1=1F69,399 1FA2=1F6A,399 1FA3=1F6B,399 1FA4=1F6C,399 ",
    "1FA5=1F6D,399 1FA6=1F6E,399 1FA7=1F6F,399 1FA8=1F68,399 1FA9=1F69,399 1FAA=1F6A,399 ",
    "1FAB=1F6B,399 1FAC=1F6C,399 1FAD=1F6D,399 1FAE=1F6E,399 1FAF=1F6F,399 1FB0+1=1FB8 ",
    "1FB2=1FBA,399 1FB3=391,399 1FB4=386,399 1FB6=391,342 1FB7=391,342,399 1FBC=391,399 ",
    "1FBE=399 1FC2=1FCA,399 1FC3=397,399 1FC4=389,399 1FC6=397,342 1FC7=397,342,399 ",
    "1FCC=397,399 1FD0+1=1FD8 1FD2=399,308,300 1FD3=399,308,301 1FD6=399,342 1FD7=399,308,342 ",
    "1FE0+1=1FE8 1FE2=3A5,308,300 1FE3=3A5,308,301 1FE4=3A1,313 1FE5=1FEC 1FE6=3A5,342 ",
    "1FE7=3A5,308,342 1FF2=1FFA,399 1FF3=3A9,399 1FF4=38F,399 1FF6=3A9,342 1FF7=3A9,342,399 ",
    "1FFC=3A9,399 214E=2132 2170+F=2160 2184=2183 24D0+19=24B6 2C30+2F=2C00 2C61=2C60 2C65=23A ",
    "2C66=23E 2C68*2=2C67 2C73=2C72 2C76=2C75 2C81*31=2C80 2CEC*1=2CEB 2CF3=2CF2 2D00+25=10A0 ",
    "2D27=10C7 2D2D=10CD A641*16=A640 A681*D=A680 A723*6=A722 A733*1E=A732 A77A*1=A779 ",
    "A77F*4=A77E A78C=A78B A791*1=A790 A794=A7C4 A797*9=A796 A7B5*7=A7B4 A7C8*1=A7C7 A7D1=A7D0 ",
    "A7D7*1=A7D6 A7F6=A7F5 AB53=A7B3 AB70+4F=13A0 FB00=46,46 FB01=46,49 FB02=46,4C ",
    "FB03=46,46,49 FB04=46,46,4C FB05=53,54 FB06=53,54 FB13=544,546 FB14=544,535 FB15=544,53B ",
    "FB16=54E,546 FB17=544,53D FF41+19=FF21 10428+27=10400 104D8+23=104B0 10597*12=10570 ",
    "10598*4=10571 105A4*6=1057D 105B4*2=1058D 105BC=10595 10CC0+32=10C80 118C0+1F=118A0 ",
    "16E60+1F=16E40 1E922+21=1E900"]

/-- Characters that differ from their lower case. -/
def lowerData : String :=
  String.join [
    "41+19=61 C0+16=E0 D8+6=F8 100*17=101 130=69,307 132*2=133 139*7=13A 14A*16=14B 178=FF ",
    "179*2=17A 181=253 182*1=183 186=254 187=188 189+1=256 18B=18C 18E=1DD 18F=259 190=25B ",
    "191=192 193=260 194=263 196=269 197=268 198=199 19C=26F 19D=272 19F=275 1A0*2=1A1 1A6=280 ",
    "1A7=1A8 1A9=283 1AC=1AD 1AE=288 1AF=1B0 1B1+1=28A 1B3*1=1B4 1B7=292 1B8=1B9 1BC=1BD ",
    "1C4=1C6 1C5=1C6 1C7=1C9 1C8=1C9 1CA=1CC 1CB*8=1CC 1DE*8=1DF 1F1=1F3 1F2*1=1F3 1F6=195 ",
    "1F7=1BF 1F8*13=1F9 220=19E 222*8=223 23A=2C65 23B=23C 23D=19A 23E=2C66 241=242 243=180 ",
    "244=289 245=28C 246*4=247 370*1=371 376=377 37F=3F3 386=3AC 388+2=3AD 38C=3CC 38E+1=3CD ",
    "391+10=3B1 3A3+8=3C3 3CF=3D7 3D8*B=3D9 3F4=3B8 3F7=3F8 3F9=3F2 3FA=3FB 3FD+2=37B ",
    "400+F=450 410+1F=430 460*10=461 48A*1A=48B 4C0=4CF 4C1*6=4C2 4D0*2F=4D1 531+25=561 ",
    "10A0+25=2D00 10C7=2D27 10CD=2D2D 13A0+4F=AB70 13F0+5=13F8 1C90+2A=10D0 1CBD+2=10FD ",
    "1E00*4A=1E01 1E9E=DF 1EA0*2F=1EA1 1F08+7=1F00 1F18+5=1F10 1F28+7=1F20 1F38+7=1F30 ",
    "1F48+5=1F40 1F59*3=1F51 1F68+7=1F60 1F88+7=1F80 1F98+7=1F90 1FA8+7=1FA0 1FB8+1=1FB0 ",
    "1FBA+1=1F70 1FBC=1FB3 1FC8+3=1F72 1FCC=1FC3 1FD8+1=1FD0 1FDA+1=1F76 1FE8+1=1FE0 ",
    "1FEA+1=1F7A 1FEC=1FE5 1FF8+1=1F78 1FFA+1=1F7C 1FFC=1FF3 2126=3C9 212A=6B 212B=E5 ",
    "2132=214E 2160+F=2170 2183=2184 24B6+19=24D0 2C00+2F=2C30 2C60=2C61 2C62=26B 2C63=1D7D ",
    "2C64=27D 2C67*2=2C68 2C6D=251 2C6E=271 2C6F=250 2C70=252 2C72=2C73 2C75=2C76 2C7E+1=23F ",
    "2C80*31=2C81 2CEB*1=2CEC 2CF2=2CF3 A640*16=A641 A680*D=A681 A722*6=A723 A732*1E=A733 ",
    "A779*1=A77A A77D=1D79 A77E*4=A77F A78B=A78C A78D=265 A790*1=A791 A796*9=A797 A7AA=266 ",
    "A7AB=25C A7AC=261 A7AD=26C A7AE=26A A7B0=29E A7B1=287 A7B2=29D A7B3=AB53 A7B4*7=A7B5 ",
    "A7C4=A794 A7C5=282 A7C6=1D8E A7C7*1=A7C8 A7D0=A7D1 A7D6*1=A7D7 A7F5=A7F6 FF21+19=FF41 ",
    "10400+27=10428 104B0+23=104D8 10570*12=10597 10571*4=10598 1057D*6=105A4 1058D*2=105B4 ",
    "10595=105BC 10C80+32=10CC0 118A0+1F=118C0 16E40+1F=16E60 1E900+21=1E922"]

/-- Characters whose title case is not their upper case. -/
def titleData : String :=
  String.join [
    "DF=53,73 1C4=1C5 1C5=1C5 1C6=1C5 1C7=1C8 1C8=1C8 1C9=1C8 1CA=1CB 1CB=1CB 1CC=1CB 1F1=1F2 ",
    "1F2=1F2 1F3=1F2 587=535,582 10D0+2A=10D0 10FD+2=10FD 1F80+7=1F88 1F88+7=1F88 1F90+7=1F98 ",
    "1F98+7=1F98 1FA0+7=1FA8 1FA8+7=1FA8 1FB2=1FBA,345 1FB3=1FBC 1FB4=386,345 1FB7=391,342,345 ",
    "1FBC=1FBC 1FC2=1FCA,345 1FC3=1FCC 1FC4=389,345 1FC7=397,342,345 1FCC=1FCC 1FF2=1FFA,345 ",
    "1FF3=1FFC 1FF4=38F,345 1FF7=3A9,342,345 1FFC=1FFC FB00=46,66 FB01=46,69 FB02=46,6C ",
    "FB03=46,66,69 FB04=46,66,6C FB05=53,74 FB06=53,74 FB13=544,576 FB14=544,565 FB15=544,56B ",
    "FB16=54E,576 FB17=544,56D"]

/-- Characters whose folded case is not their lower case. -/
def foldData : String :=
  String.join [
    "B5=3BC DF=73,73 149=2BC,6E 17F=73 1F0=6A,30C 345=3B9 390=3B9,308,301 3B0=3C5,308,301 ",
    "3C2=3C3 3D0=3B2 3D1=3B8 3D5=3C6 3D6=3C0 3F0=3BA 3F1=3C1 3F5=3B5 587=565,582 13A0+55=13A0 ",
    "13F8+5=13F0 1C80=432 1C81=434 1C82=43E 1C83+1=441 1C85=442 1C86=44A 1C87=463 1C88=A64B ",
    "1E96=68,331 1E97=74,308 1E98=77,30A 1E99=79,30A 1E9A=61,2BE 1E9B=1E61 1E9E=73,73 ",
    "1F50=3C5,313 1F52=3C5,313,300 1F54=3C5,313,301 1F56=3C5,313,342 1F80=1F00,3B9 ",
    "1F81=1F01,3B9 1F82=1F02,3B9 1F83=1F03,3B9 1F84=1F04,3B9 1F85=1F05,3B9 1F86=1F06,3B9 ",
    "1F87=1F07,3B9 1F88=1F00,3B9 1F89=1F01,3B9 1F8A=1F02,3B9 1F8B=1F03,3B9 1F8C=1F04,3B9 ",
    "1F8D=1F05,3B9 1F8E=1F06,3B9 1F8F=1F07,3B9 1F90=1F20,3B9 1F91=1F21,3B9 1F92=1F22,3B9 ",
    "1F93=1F23,3B9 1F94=1F24,3B9 1F95=1F25,3B9 1F96=1F26,3B9 1F97=1F27,3B9 1F98=1F20,3B9 ",
    "1F99=1F21,3B9 1F9A=1F22,3B9 1F9B=1F23,3B9 1F9C=1F24,3B9 1F9D=1F25,3B9 1F9E=1F26,3B9 ",
    "1F9F=1F27,3B9 1FA0=1F60,3B9 1FA1=1F61,3B9 1FA2=1F62,3B9 1FA3=1F63,3B9 1FA4=1F64,3B9 ",
    "1FA5=1F65,3B9 1FA6=1F66,3B9 1FA7=1F67,3B9 1FA8=1F60,3B9 1FA9=1F61,3B9 1FAA=1F62,3B9 ",
    "1FAB=1F63,3B9 1FAC=1F64,3B9 1FAD=1F65,3B9 1FAE=1F66,3B9 1FAF=1F67,3B9 1FB2=1F70,3B9 ",
    "1FB3=3B1,3B9 1FB4=3AC,3B9 1FB6=3B1,342 1FB7=3B1,342,3B9 1FBC=3B1,3B9 1FBE=3B9 ",
    "1FC2=1F74,3B9 1FC3=3B7,3B9 1FC4=3AE,3B9 1FC6=3B7,342 1FC7=3B7,342,3B9 1FCC=3B7,3B9 ",
    "1FD2=3B9,308,300 1FD3=3B9,308,301 1FD6=3B9,342 1FD7=3B9,308,342 1FE2=3C5,308,300 ",
    "1FE3=3C5,308,301 1FE4=3C1,313 1FE6=3C5,342 1FE7=3C5,308,342 1FF2=1F7C,3B9 1FF3=3C9,3B9 ",
    "1FF4=3CE,3B9 1FF6=3C9,342 1FF7=3C9,342,3B9 1FFC=3C9,3B9 AB70+4F=13A0 FB00=66,66 ",
    "FB01=66,69 FB02=66,6C FB03=66,66,69 FB04=66,66,6C FB05=73,74 FB06=73,74 FB13=574,576 ",
    "FB14=574,565 FB15=574,56B FB16=57E,576 FB17=574,56D"]

end BoundSql.Text

import ServiceLocator.Unicode.Row

/-!
Characters that a quoted text shows as they are.
-/
namespace ServiceLocator.Unicode

/-- Controls, formats, surrogates, private and unassigned code points, and separators
other than the plain space. -/
def unprintableRows : List Row := Row.table "
0..1F 7F..A0 AD 378..379 380..383 38B 38D 3A2 530 557..558 58B..58C 590 5C8..5CF 5EB..5EE 5F5..605
61C 6DD 70E..70F 74B..74C 7B2..7BF 7FB..7FC 82E..82F 83F 85C..85D 85F 86B..86F 890..896 8E2 984
98D..98E 991..992 9A9 9B1 9B3..9B5 9BA..9BB 9C5..9C6 9C9..9CA 9CF..9D6 9D8..9DB 9DE 9E4..9E5
9FF..A00 A04 A0B..A0E A11..A12 A29 A31 A34 A37 A3A..A3B A3D A43..A46 A49..A4A A4E..A50 A52..A58
A5D A5F..A65 A77..A80 A84 A8E A92 AA9 AB1 AB4 ABA..ABB AC6 ACA ACE..ACF AD1..ADF AE4..AE5 AF2..AF8
B00 B04 B0D..B0E B11..B12 B29 B31 B34 B3A..B3B B45..B46 B49..B4A B4E..B54 B58..B5B B5E B64..B65
B78..B81 B84 B8B..B8D B91 B96..B98 B9B B9D BA0..BA2 BA5..BA7 BAB..BAD BBA..BBD BC3..BC5 BC9
BCE..BCF BD1..BD6 BD8..BE5 BFB..BFF C0D C11 C29 C3A..C3B C45 C49 C4E..C54 C57 C5B C5E..C5F
C64..C65 C70..C76 C8D C91 CA9 CB4 CBA..CBB CC5 CC9 CCE..CD4 CD7..CDB CDF CE4..CE5 CF0 CF4..CFF D0D
D11 D45 D49 D50..D53 D64..D65 D80 D84 D97..D99 DB2 DBC DBE..DBF DC7..DC9 DCB..DCE DD5 DD7 DE0..DE5
DF0..DF1 DF5..E00 E3B..E3E E5C..E80 E83 E85 E8B EA4 EA6 EBE..EBF EC5 EC7 ECF EDA..EDB EE0..EFF F48
F6D..F70 F98 FBD FCD FDB..FFF 10C6 10C8..10CC 10CE..10CF 1249 124E..124F 1257 1259 125E..125F 1289
128E..128F 12B1 12B6..12B7 12BF 12C1 12C6..12C7 12D7 1311 1316..1317 135B..135C 137D..137F
139A..139F 13F6..13F7 13FE..13FF 1680 169D..169F 16F9..16FF 1716..171E 1737..173F 1754..175F 176D
1771 1774..177F 17DE..17DF 17EA..17EF 17FA..17FF 180E 181A..181F 1879..187F 18AB..18AF 18F6..18FF
191F 192C..192F 193C..193F 1941..1943 196E..196F 1975..197F 19AC..19AF 19CA..19CF 19DB..19DD
1A1C..1A1D 1A5F 1A7D..1A7E 1A8A..1A8F 1A9A..1A9F 1AAE..1AAF 1ADE..1ADF 1AEC..1AFF 1B4D 1BF4..1BFB
1C38..1C3A 1C4A..1C4C 1C8B..1C8F 1CBB..1CBC 1CC8..1CCF 1CFB..1CFF 1F16..1F17 1F1E..1F1F 1F46..1F47
1F4E..1F4F 1F58 1F5A 1F5C 1F5E 1F7E..1F7F 1FB5 1FC5 1FD4..1FD5 1FDC 1FF0..1FF1 1FF5 1FFF..200F
2028..202F 205F..206F 2072..2073 208F 209D..209F 20C2..20CF 20F1..20FF 218C..218F 242A..243F
244B..245F 2B74..2B75 2CF4..2CF8 2D26 2D28..2D2C 2D2E..2D2F 2D68..2D6E 2D71..2D7E 2D97..2D9F 2DA7
2DAF 2DB7 2DBF 2DC7 2DCF 2DD7 2DDF 2E5E..2E7F 2E9A 2EF4..2EFF 2FD6..2FEF 3000 3040 3097..3098
3100..3104 3130 318F 31E6..31EE 321F A48D..A48F A4C7..A4CF A62C..A63F A6F8..A6FF A7DD..A7F0
A82D..A82F A83A..A83F A878..A87F A8C6..A8CD A8DA..A8DF A954..A95E A97D..A97F A9CE A9DA..A9DD A9FF
AA37..AA3F AA4E..AA4F AA5A..AA5B AAC3..AADA AAF7..AB00 AB07..AB08 AB0F..AB10 AB17..AB1F AB27 AB2F
AB6C..AB6F ABEE..ABEF ABFA..ABFF D7A4..D7AF D7C7..D7CA D7FC..D7FF E000..F8FF FA6E..FA6F FADA..FAFF
FB07..FB12 FB18..FB1C FB37 FB3D FB3F FB42 FB45 FDD0..FDEF FE1A..FE1F FE53 FE67 FE6C..FE6F FE75
FEFD..FF00 FFBF..FFC1 FFC8..FFC9 FFD0..FFD1 FFD8..FFD9 FFDD..FFDF FFE7 FFEF..FFFB FFFE..FFFF 1000C
10027 1003B 1003E 1004E..1004F 1005E..1007F 100FB..100FF 10103..10106 10134..10136 1018F
1019D..1019F 101A1..101CF 101FE..1027F 1029D..1029F 102D1..102DF 102FC..102FF 10324..1032C
1034B..1034F 1037B..1037F 1039E 103C4..103C7 103D6..103FF 1049E..1049F 104AA..104AF 104D4..104D7
104FC..104FF 10528..1052F 10564..1056E 1057B 1058B 10593 10596 105A2 105B2 105BA 105BD..105BF
105F4..105FF 10737..1073F 10756..1075F 10768..1077F 10786 107B1 107BB..107FF 10806..10807 10809
10836 10839..1083B 1083D..1083E 10856 1089F..108A6 108B0..108DF 108F3 108F6..108FA 1091C..1091E
1093A..1093E 1095A..1097F 109B8..109BB 109D0..109D1 10A04 10A07..10A0B 10A14 10A18 10A36..10A37
10A3B..10A3E 10A49..10A4F 10A59..10A5F 10AA0..10ABF 10AE7..10AEA 10AF7..10AFF 10B36..10B38
10B56..10B57 10B73..10B77 10B92..10B98 10B9D..10BA8 10BB0..10BFF 10C49..10C7F 10CB3..10CBF
10CF3..10CF9 10D28..10D2F 10D3A..10D3F 10D66..10D68 10D86..10D8D 10D90..10E5F 10E7F 10EAA
10EAE..10EAF 10EB2..10EC1 10EC8..10ECF 10ED9..10EF9 10F28..10F2F 10F5A..10F6F 10F8A..10FAF
10FCC..10FDF 10FF7..10FFF 1104E..11051 11076..1107E 110BD 110C3..110CF 110E9..110EF 110FA..110FF
11135 11148..1114F 11177..1117F 111E0 111F5..111FF 11212 11242..1127F 11287 11289 1128E 1129E
112AA..112AF 112EB..112EF 112FA..112FF 11304 1130D..1130E 11311..11312 11329 11331 11334 1133A
11345..11346 11349..1134A 1134E..1134F 11351..11356 11358..1135C 11364..11365 1136D..1136F
11375..1137F 1138A 1138C..1138D 1138F 113B6 113C1 113C3..113C4 113C6 113CB 113D6 113D9..113E0
113E3..113FF 1145C 11462..1147F 114C8..114CF 114DA..1157F 115B6..115B7 115DE..115FF 11645..1164F
1165A..1165F 1166D..1167F 116BA..116BF 116CA..116CF 116E4..116FF 1171B..1171C 1172C..1172F
11747..117FF 1183C..1189F 118F3..118FE 11907..11908 1190A..1190B 11914 11917 11936 11939..1193A
11947..1194F 1195A..1199F 119A8..119A9 119D8..119D9 119E5..119FF 11A48..11A4F 11AA3..11AAF
11AF9..11AFF 11B0A..11B5F 11B68..11BBF 11BE2..11BEF 11BFA..11BFF 11C09 11C37 11C46..11C4F
11C6D..11C6F 11C90..11C91 11CA8 11CB7..11CFF 11D07 11D0A 11D37..11D39 11D3B 11D3E 11D48..11D4F
11D5A..11D5F 11D66 11D69 11D8F 11D92 11D99..11D9F 11DAA..11DAF 11DDC..11DDF 11DEA..11EDF
11EF9..11EFF 11F11 11F3B..11F3D 11F5B..11FAF 11FB1..11FBF 11FF2..11FFE 1239A..123FF 1246F
12475..1247F 12544..12F8F 12FF3..12FFF 13430..1343F 13456..1345F 143FB..143FF 14647..160FF
1613A..167FF 16A39..16A3F 16A5F 16A6A..16A6D 16ABF 16ACA..16ACF 16AEE..16AEF 16AF6..16AFF
16B46..16B4F 16B5A 16B62 16B78..16B7C 16B90..16D3F 16D7A..16E3F 16E9B..16E9F 16EB9..16EBA
16ED4..16EFF 16F4B..16F4E 16F88..16F8E 16FA0..16FDF 16FE5..16FEF 16FF7..16FFF 18CD6..18CFE
18D1F..18D7F 18DF3..1AFEF 1AFF4 1AFFC 1AFFF 1B123..1B131 1B133..1B14F 1B153..1B154 1B156..1B163
1B168..1B16F 1B2FC..1BBFF 1BC6B..1BC6F 1BC7D..1BC7F 1BC89..1BC8F 1BC9A..1BC9B 1BCA0..1CBFF
1CCFD..1CCFF 1CEB4..1CEB9 1CED1..1CEDF 1CEF1..1CEFF 1CF2E..1CF2F 1CF47..1CF4F 1CFC4..1CFFF
1D0F6..1D0FF 1D127..1D128 1D173..1D17A 1D1EB..1D1FF 1D246..1D2BF 1D2D4..1D2DF 1D2F4..1D2FF
1D357..1D35F 1D379..1D3FF 1D455 1D49D 1D4A0..1D4A1 1D4A3..1D4A4 1D4A7..1D4A8 1D4AD 1D4BA 1D4BC
1D4C4 1D506 1D50B..1D50C 1D515 1D51D 1D53A 1D53F 1D545 1D547..1D549 1D551 1D6A6..1D6A7
1D7CC..1D7CD 1DA8C..1DA9A 1DAA0 1DAB0..1DEFF 1DF1F..1DF24 1DF2B..1DFFF 1E007 1E019..1E01A 1E022
1E025 1E02B..1E02F 1E06E..1E08E 1E090..1E0FF 1E12D..1E12F 1E13E..1E13F 1E14A..1E14D 1E150..1E28F
1E2AF..1E2BF 1E2FA..1E2FE 1E300..1E4CF 1E4FA..1E5CF 1E5FB..1E5FE 1E600..1E6BF 1E6DF 1E6F6..1E6FD
1E700..1E7DF 1E7E7 1E7EC 1E7EF 1E7FF 1E8C5..1E8C6 1E8D7..1E8FF 1E94C..1E94F 1E95A..1E95D
1E960..1EC70 1ECB5..1ED00 1ED3E..1EDFF 1EE04 1EE20 1EE23 1EE25..1EE26 1EE28 1EE33 1EE38 1EE3A
1EE3C..1EE41 1EE43..1EE46 1EE48 1EE4A 1EE4C 1EE50 1EE53 1EE55..1EE56 1EE58 1EE5A 1EE5C 1EE5E 1EE60
1EE63 1EE65..1EE66 1EE6B 1EE73 1EE78 1EE7D 1EE7F 1EE8A 1EE9C..1EEA0 1EEA4 1EEAA 1EEBC..1EEEF
1EEF2..1EFFF 1F02C..1F02F 1F094..1F09F 1F0AF..1F0B0 1F0C0 1F0D0 1F0F6..1F0FF 1F1AE..1F1E5
1F203..1F20F 1F23C..1F23F 1F249..1F24F 1F252..1F25F 1F266..1F2FF 1F6D9..1F6DB 1F6ED..1F6EF
1F6FD..1F6FF 1F7DA..1F7DF 1F7EC..1F7EF 1F7F1..1F7FF 1F80C..1F80F 1F848..1F84F 1F85A..1F85F
1F888..1F88F 1F8AE..1F8AF 1F8BC..1F8BF 1F8C2..1F8CF 1F8D9..1F8FF 1FA58..1FA5F 1FA6E..1FA6F
1FA7D..1FA7F 1FA8B..1FA8D 1FAC7 1FAC9..1FACC 1FADD..1FADE 1FAEB..1FAEE 1FAF9..1FAFF 1FB93
1FBFB..1FFFF 2A6E0..2A6FF 2B81E..2B81F 2CEAE..2CEAF 2EBE1..2EBEF 2EE5E..2F7FF 2FA1E..2FFFF
3134B..3134F 3347A..E00FF E01F0..10FFFF"

/-- Characters with the property Grapheme_Extend. -/
def graphemeExtendRows : List Row := Row.table "
300..36F 483..489 591..5BD 5BF 5C1..5C2 5C4..5C5 5C7 610..61A 64B..65F 670 6D6..6DC 6DF..6E4
6E7..6E8 6EA..6ED 711 730..74A 7A6..7B0 7EB..7F3 7FD 816..819 81B..823 825..827 829..82D 859..85B
897..89F 8CA..8E1 8E3..902 93A 93C 941..948 94D 951..957 962..963 981 9BC 9BE 9C1..9C4 9CD 9D7
9E2..9E3 9FE A01..A02 A3C A41..A42 A47..A48 A4B..A4D A51 A70..A71 A75 A81..A82 ABC AC1..AC5
AC7..AC8 ACD AE2..AE3 AFA..AFF B01 B3C B3E..B3F B41..B44 B4D B55..B57 B62..B63 B82 BBE BC0 BCD BD7
C00 C04 C3C C3E..C40 C46..C48 C4A..C4D C55..C56 C62..C63 C81 CBC CBF..CC0 CC2 CC6..CC8 CCA..CCD
CD5..CD6 CE2..CE3 D00..D01 D3B..D3C D3E D41..D44 D4D D57 D62..D63 D81 DCA DCF DD2..DD4 DD6 DDF E31
E34..E3A E47..E4E EB1 EB4..EBC EC8..ECE F18..F19 F35 F37 F39 F71..F7E F80..F84 F86..F87 F8D..F97
F99..FBC FC6 102D..1030 1032..1037 1039..103A 103D..103E 1058..1059 105E..1060 1071..1074 1082
1085..1086 108D 109D 135D..135F 1712..1715 1732..1734 1752..1753 1772..1773 17B4..17B5 17B7..17BD
17C6 17C9..17D3 17DD 180B..180D 180F 1885..1886 18A9 1920..1922 1927..1928 1932 1939..193B
1A17..1A18 1A1B 1A56 1A58..1A5E 1A60 1A62 1A65..1A6C 1A73..1A7C 1A7F 1AB0..1ADD 1AE0..1AEB
1B00..1B03 1B34..1B3D 1B42..1B44 1B6B..1B73 1B80..1B81 1BA2..1BA5 1BA8..1BAD 1BE6 1BE8..1BE9 1BED
1BEF..1BF3 1C2C..1C33 1C36..1C37 1CD0..1CD2 1CD4..1CE0 1CE2..1CE8 1CED 1CF4 1CF8..1CF9 1DC0..1DFF
200C 20D0..20F0 2CEF..2CF1 2D7F 2DE0..2DFF 302A..302F 3099..309A A66F..A672 A674..A67D A69E..A69F
A6F0..A6F1 A802 A806 A80B A825..A826 A82C A8C4..A8C5 A8E0..A8F1 A8FF A926..A92D A947..A951 A953
A980..A982 A9B3 A9B6..A9B9 A9BC..A9BD A9C0 A9E5 AA29..AA2E AA31..AA32 AA35..AA36 AA43 AA4C AA7C
AAB0 AAB2..AAB4 AAB7..AAB8 AABE..AABF AAC1 AAEC..AAED AAF6 ABE5 ABE8 ABED FB1E FE00..FE0F
FE20..FE2F FF9E..FF9F 101FD 102E0 10376..1037A 10A01..10A03 10A05..10A06 10A0C..10A0F 10A38..10A3A
10A3F 10AE5..10AE6 10D24..10D27 10D69..10D6D 10EAB..10EAC 10EFA..10EFF 10F46..10F50 10F82..10F85
11001 11038..11046 11070 11073..11074 1107F..11081 110B3..110B6 110B9..110BA 110C2 11100..11102
11127..1112B 1112D..11134 11173 11180..11181 111B6..111BE 111C0 111C9..111CC 111CF 1122F..11231
11234..11237 1123E 11241 112DF 112E3..112EA 11300..11301 1133B..1133C 1133E 11340 1134D 11357
11366..1136C 11370..11374 113B8 113BB..113C0 113C2 113C5 113C7..113C9 113CE..113D0 113D2
113E1..113E2 11438..1143F 11442..11444 11446 1145E 114B0 114B3..114B8 114BA 114BD 114BF..114C0
114C2..114C3 115AF 115B2..115B5 115BC..115BD 115BF..115C0 115DC..115DD 11633..1163A 1163D
1163F..11640 116AB 116AD 116B0..116B7 1171D 1171F 11722..11725 11727..1172B 1182F..11837
11839..1183A 11930 1193B..1193E 11943 119D4..119D7 119DA..119DB 119E0 11A01..11A0A 11A33..11A38
11A3B..11A3E 11A47 11A51..11A56 11A59..11A5B 11A8A..11A96 11A98..11A99 11B60 11B62..11B64 11B66
11C30..11C36 11C38..11C3D 11C3F 11C92..11CA7 11CAA..11CB0 11CB2..11CB3 11CB5..11CB6 11D31..11D36
11D3A 11D3C..11D3D 11D3F..11D45 11D47 11D90..11D91 11D95 11D97 11EF3..11EF4 11F00..11F01
11F36..11F3A 11F40..11F42 11F5A 13440 13447..13455 1611E..16129 1612D..1612F 16AF0..16AF4
16B30..16B36 16F4F 16F8F..16F92 16FE4 16FF0..16FF1 1BC9D..1BC9E 1CF00..1CF2D 1CF30..1CF46
1D165..1D169 1D16D..1D172 1D17B..1D182 1D185..1D18B 1D1AA..1D1AD 1D242..1D244 1DA00..1DA36
1DA3B..1DA6C 1DA75 1DA84 1DA9B..1DA9F 1DAA1..1DAAF 1E000..1E006 1E008..1E018 1E01B..1E021
1E023..1E024 1E026..1E02A 1E08F 1E130..1E136 1E2AE 1E2EC..1E2EF 1E4EC..1E4EF 1E5EE..1E5EF 1E6E3
1E6E6 1E6EE..1E6EF 1E6F5 1E8D0..1E8D6 1E944..1E94A E0020..E007F E0100..E01EF"

/-- Whether a character can be shown alone: printable, and no extension of the
character before it. -/
def isShown (c : Char) : Bool :=
  !inTable unprintableRows c.toNat && !inTable graphemeExtendRows c.toNat

end ServiceLocator.Unicode

import DocumentDb.Text.CharSet

/-!
# Named classes of characters

The classes that a pattern can name, general categories and scripts, and the groups of characters
that a pattern takes for one when it ignores case.
-/

set_option autoImplicit false

namespace DocumentDb.Text

/-- A class of characters with its names, in lower case and without separators. -/
structure NamedClass where
  names : List String
  members : CharSet

/-- Reads `name,name:ranges`. -/
def NamedClass.ofText (text : List Char) : NamedClass :=
  { names := (piecesBy (fun c => c == ',' || isGap c) (text.takeWhile (· != ':'))).map String.ofList
    members := ⟨(piecesBy isGap ((text.dropWhile (· != ':')).drop 1)).map CharSet.rangeOfText⟩ }

/-- Reads classes separated by semicolons. -/
def namedClassesOfText (text : String) : List NamedClass :=
  (piecesBy (· == ';') text.toList).map NamedClass.ofText

/-- The general categories, unassigned code points and surrogates apart. -/
def categories : List NamedClass := namedClassesOfText
  "lu,uppercaseletter:41-5A C0-D6 D8-DE 100 102 104 106 108 10A 10C 10E 110 112 114 116 118 11A
    11C 11E 120 122 124 126 128 12A 12C 12E 130 132 134 136 139 13B 13D 13F 141 143 145 147 14A
    14C 14E 150 152 154 156 158 15A 15C 15E 160 162 164 166 168 16A 16C 16E 170 172 174 176
    178-179 17B 17D 181-182 184 186-187 189-18B 18E-191 193-194 196-198 19C-19D 19F-1A0 1A2 1A4
    1A6-1A7 1A9 1AC 1AE-1AF 1B1-1B3 1B5 1B7-1B8 1BC 1C4 1C7 1CA 1CD 1CF 1D1 1D3 1D5 1D7 1D9 1DB
    1DE 1E0 1E2 1E4 1E6 1E8 1EA 1EC 1EE 1F1 1F4 1F6-1F8 1FA 1FC 1FE 200 202 204 206 208 20A 20C
    20E 210 212 214 216 218 21A 21C 21E 220 222 224 226 228 22A 22C 22E 230 232 23A-23B 23D-23E
    241 243-246 248 24A 24C 24E 370 372 376 37F 386 388-38A 38C 38E-38F 391-3A1 3A3-3AB 3CF
    3D2-3D4 3D8 3DA 3DC 3DE 3E0 3E2 3E4 3E6 3E8 3EA 3EC 3EE 3F4 3F7 3F9-3FA 3FD-42F 460 462 464
    466 468 46A 46C 46E 470 472 474 476 478 47A 47C 47E 480 48A 48C 48E 490 492 494 496 498 49A
    49C 49E 4A0 4A2 4A4 4A6 4A8 4AA 4AC 4AE 4B0 4B2 4B4 4B6 4B8 4BA 4BC 4BE 4C0-4C1 4C3 4C5 4C7
    4C9 4CB 4CD 4D0 4D2 4D4 4D6 4D8 4DA 4DC 4DE 4E0 4E2 4E4 4E6 4E8 4EA 4EC 4EE 4F0 4F2 4F4 4F6
    4F8 4FA 4FC 4FE 500 502 504 506 508 50A 50C 50E 510 512 514 516 518 51A 51C 51E 520 522 524
    526 528 52A 52C 52E 531-556 10A0-10C5 10C7 10CD 13A0-13F5 1C89 1C90-1CBA 1CBD-1CBF 1E00 1E02
    1E04 1E06 1E08 1E0A 1E0C 1E0E 1E10 1E12 1E14 1E16 1E18 1E1A 1E1C 1E1E 1E20 1E22 1E24 1E26
    1E28 1E2A 1E2C 1E2E 1E30 1E32 1E34 1E36 1E38 1E3A 1E3C 1E3E 1E40 1E42 1E44 1E46 1E48 1E4A
    1E4C 1E4E 1E50 1E52 1E54 1E56 1E58 1E5A 1E5C 1E5E 1E60 1E62 1E64 1E66 1E68 1E6A 1E6C 1E6E
    1E70 1E72 1E74 1E76 1E78 1E7A 1E7C 1E7E 1E80 1E82 1E84 1E86 1E88 1E8A 1E8C 1E8E 1E90 1E92
    1E94 1E9E 1EA0 1EA2 1EA4 1EA6 1EA8 1EAA 1EAC 1EAE 1EB0 1EB2 1EB4 1EB6 1EB8 1EBA 1EBC 1EBE
    1EC0 1EC2 1EC4 1EC6 1EC8 1ECA 1ECC 1ECE 1ED0 1ED2 1ED4 1ED6 1ED8 1EDA 1EDC 1EDE 1EE0 1EE2
    1EE4 1EE6 1EE8 1EEA 1EEC 1EEE 1EF0 1EF2 1EF4 1EF6 1EF8 1EFA 1EFC 1EFE 1F08-1F0F 1F18-1F1D
    1F28-1F2F 1F38-1F3F 1F48-1F4D 1F59 1F5B 1F5D 1F5F 1F68-1F6F 1FB8-1FBB 1FC8-1FCB 1FD8-1FDB
    1FE8-1FEC 1FF8-1FFB 2102 2107 210B-210D 2110-2112 2115 2119-211D 2124 2126 2128 212A-212D
    2130-2133 213E-213F 2145 2183 2C00-2C2F 2C60 2C62-2C64 2C67 2C69 2C6B 2C6D-2C70 2C72 2C75
    2C7E-2C80 2C82 2C84 2C86 2C88 2C8A 2C8C 2C8E 2C90 2C92 2C94 2C96 2C98 2C9A 2C9C 2C9E 2CA0
    2CA2 2CA4 2CA6 2CA8 2CAA 2CAC 2CAE 2CB0 2CB2 2CB4 2CB6 2CB8 2CBA 2CBC 2CBE 2CC0 2CC2 2CC4
    2CC6 2CC8 2CCA 2CCC 2CCE 2CD0 2CD2 2CD4 2CD6 2CD8 2CDA 2CDC 2CDE 2CE0 2CE2 2CEB 2CED 2CF2
    A640 A642 A644 A646 A648 A64A A64C A64E A650 A652 A654 A656 A658 A65A A65C A65E A660 A662
    A664 A666 A668 A66A A66C A680 A682 A684 A686 A688 A68A A68C A68E A690 A692 A694 A696 A698
    A69A A722 A724 A726 A728 A72A A72C A72E A732 A734 A736 A738 A73A A73C A73E A740 A742 A744
    A746 A748 A74A A74C A74E A750 A752 A754 A756 A758 A75A A75C A75E A760 A762 A764 A766 A768
    A76A A76C A76E A779 A77B A77D-A77E A780 A782 A784 A786 A78B A78D A790 A792 A796 A798 A79A
    A79C A79E A7A0 A7A2 A7A4 A7A6 A7A8 A7AA-A7AE A7B0-A7B4 A7B6 A7B8 A7BA A7BC A7BE A7C0 A7C2
    A7C4-A7C7 A7C9 A7CB-A7CC A7CE A7D0 A7D2 A7D4 A7D6 A7D8 A7DA A7DC A7F5 FF21-FF3A 10400-10427
    104B0-104D3 10570-1057A 1057C-1058A 1058C-10592 10594-10595 10C80-10CB2 10D50-10D65
    118A0-118BF 16E40-16E5F 16EA0-16EB8 1D400-1D419 1D434-1D44D 1D468-1D481 1D49C 1D49E-1D49F
    1D4A2 1D4A5-1D4A6 1D4A9-1D4AC 1D4AE-1D4B5 1D4D0-1D4E9 1D504-1D505 1D507-1D50A 1D50D-1D514
    1D516-1D51C 1D538-1D539 1D53B-1D53E 1D540-1D544 1D546 1D54A-1D550 1D56C-1D585 1D5A0-1D5B9
    1D5D4-1D5ED 1D608-1D621 1D63C-1D655 1D670-1D689 1D6A8-1D6C0 1D6E2-1D6FA 1D71C-1D734
    1D756-1D76E 1D790-1D7A8 1D7CA 1E900-1E921; ll,lowercaseletter:61-7A B5 DF-F6 F8-FF 101 103
    105 107 109 10B 10D 10F 111 113 115 117 119 11B 11D 11F 121 123 125 127 129 12B 12D 12F 131
    133 135 137-138 13A 13C 13E 140 142 144 146 148-149 14B 14D 14F 151 153 155 157 159 15B 15D
    15F 161 163 165 167 169 16B 16D 16F 171 173 175 177 17A 17C 17E-180 183 185 188 18C-18D 192
    195 199-19B 19E 1A1 1A3 1A5 1A8 1AA-1AB 1AD 1B0 1B4 1B6 1B9-1BA 1BD-1BF 1C6 1C9 1CC 1CE 1D0
    1D2 1D4 1D6 1D8 1DA 1DC-1DD 1DF 1E1 1E3 1E5 1E7 1E9 1EB 1ED 1EF-1F0 1F3 1F5 1F9 1FB 1FD 1FF
    201 203 205 207 209 20B 20D 20F 211 213 215 217 219 21B 21D 21F 221 223 225 227 229 22B 22D
    22F 231 233-239 23C 23F-240 242 247 249 24B 24D 24F-293 296-2AF 371 373 377 37B-37D 390
    3AC-3CE 3D0-3D1 3D5-3D7 3D9 3DB 3DD 3DF 3E1 3E3 3E5 3E7 3E9 3EB 3ED 3EF-3F3 3F5 3F8 3FB-3FC
    430-45F 461 463 465 467 469 46B 46D 46F 471 473 475 477 479 47B 47D 47F 481 48B 48D 48F 491
    493 495 497 499 49B 49D 49F 4A1 4A3 4A5 4A7 4A9 4AB 4AD 4AF 4B1 4B3 4B5 4B7 4B9 4BB 4BD 4BF
    4C2 4C4 4C6 4C8 4CA 4CC 4CE-4CF 4D1 4D3 4D5 4D7 4D9 4DB 4DD 4DF 4E1 4E3 4E5 4E7 4E9 4EB 4ED
    4EF 4F1 4F3 4F5 4F7 4F9 4FB 4FD 4FF 501 503 505 507 509 50B 50D 50F 511 513 515 517 519 51B
    51D 51F 521 523 525 527 529 52B 52D 52F 560-588 10D0-10FA 10FD-10FF 13F8-13FD 1C80-1C88 1C8A
    1D00-1D2B 1D6B-1D77 1D79-1D9A 1E01 1E03 1E05 1E07 1E09 1E0B 1E0D 1E0F 1E11 1E13 1E15 1E17
    1E19 1E1B 1E1D 1E1F 1E21 1E23 1E25 1E27 1E29 1E2B 1E2D 1E2F 1E31 1E33 1E35 1E37 1E39 1E3B
    1E3D 1E3F 1E41 1E43 1E45 1E47 1E49 1E4B 1E4D 1E4F 1E51 1E53 1E55 1E57 1E59 1E5B 1E5D 1E5F
    1E61 1E63 1E65 1E67 1E69 1E6B 1E6D 1E6F 1E71 1E73 1E75 1E77 1E79 1E7B 1E7D 1E7F 1E81 1E83
    1E85 1E87 1E89 1E8B 1E8D 1E8F 1E91 1E93 1E95-1E9D 1E9F 1EA1 1EA3 1EA5 1EA7 1EA9 1EAB 1EAD
    1EAF 1EB1 1EB3 1EB5 1EB7 1EB9 1EBB 1EBD 1EBF 1EC1 1EC3 1EC5 1EC7 1EC9 1ECB 1ECD 1ECF 1ED1
    1ED3 1ED5 1ED7 1ED9 1EDB 1EDD 1EDF 1EE1 1EE3 1EE5 1EE7 1EE9 1EEB 1EED 1EEF 1EF1 1EF3 1EF5
    1EF7 1EF9 1EFB 1EFD 1EFF-1F07 1F10-1F15 1F20-1F27 1F30-1F37 1F40-1F45 1F50-1F57 1F60-1F67
    1F70-1F7D 1F80-1F87 1F90-1F97 1FA0-1FA7 1FB0-1FB4 1FB6-1FB7 1FBE 1FC2-1FC4 1FC6-1FC7
    1FD0-1FD3 1FD6-1FD7 1FE0-1FE7 1FF2-1FF4 1FF6-1FF7 210A 210E-210F 2113 212F 2134 2139
    213C-213D 2146-2149 214E 2184 2C30-2C5F 2C61 2C65-2C66 2C68 2C6A 2C6C 2C71 2C73-2C74
    2C76-2C7B 2C81 2C83 2C85 2C87 2C89 2C8B 2C8D 2C8F 2C91 2C93 2C95 2C97 2C99 2C9B 2C9D 2C9F
    2CA1 2CA3 2CA5 2CA7 2CA9 2CAB 2CAD 2CAF 2CB1 2CB3 2CB5 2CB7 2CB9 2CBB 2CBD 2CBF 2CC1 2CC3
    2CC5 2CC7 2CC9 2CCB 2CCD 2CCF 2CD1 2CD3 2CD5 2CD7 2CD9 2CDB 2CDD 2CDF 2CE1 2CE3-2CE4 2CEC
    2CEE 2CF3 2D00-2D25 2D27 2D2D A641 A643 A645 A647 A649 A64B A64D A64F A651 A653 A655 A657
    A659 A65B A65D A65F A661 A663 A665 A667 A669 A66B A66D A681 A683 A685 A687 A689 A68B A68D
    A68F A691 A693 A695 A697 A699 A69B A723 A725 A727 A729 A72B A72D A72F-A731 A733 A735 A737
    A739 A73B A73D A73F A741 A743 A745 A747 A749 A74B A74D A74F A751 A753 A755 A757 A759 A75B
    A75D A75F A761 A763 A765 A767 A769 A76B A76D A76F A771-A778 A77A A77C A77F A781 A783 A785
    A787 A78C A78E A791 A793-A795 A797 A799 A79B A79D A79F A7A1 A7A3 A7A5 A7A7 A7A9 A7AF A7B5
    A7B7 A7B9 A7BB A7BD A7BF A7C1 A7C3 A7C8 A7CA A7CD A7CF A7D1 A7D3 A7D5 A7D7 A7D9 A7DB A7F6
    A7FA AB30-AB5A AB60-AB68 AB70-ABBF FB00-FB06 FB13-FB17 FF41-FF5A 10428-1044F 104D8-104FB
    10597-105A1 105A3-105B1 105B3-105B9 105BB-105BC 10CC0-10CF2 10D70-10D85 118C0-118DF
    16E60-16E7F 16EBB-16ED3 1D41A-1D433 1D44E-1D454 1D456-1D467 1D482-1D49B 1D4B6-1D4B9 1D4BB
    1D4BD-1D4C3 1D4C5-1D4CF 1D4EA-1D503 1D51E-1D537 1D552-1D56B 1D586-1D59F 1D5BA-1D5D3
    1D5EE-1D607 1D622-1D63B 1D656-1D66F 1D68A-1D6A5 1D6C2-1D6DA 1D6DC-1D6E1 1D6FC-1D714
    1D716-1D71B 1D736-1D74E 1D750-1D755 1D770-1D788 1D78A-1D78F 1D7AA-1D7C2 1D7C4-1D7C9 1D7CB
    1DF00-1DF09 1DF0B-1DF1E 1DF25-1DF2A 1E922-1E943; lt,titlecaseletter:1C5 1C8 1CB 1F2
    1F88-1F8F 1F98-1F9F 1FA8-1FAF 1FBC 1FCC 1FFC; lm,modifierletter:2B0-2C1 2C6-2D1 2E0-2E4 2EC
    2EE 374 37A 559 640 6E5-6E6 7F4-7F5 7FA 81A 824 828 8C9 971 E46 EC6 10FC 17D7 1843 1AA7
    1C78-1C7D 1D2C-1D6A 1D78 1D9B-1DBF 2071 207F 2090-209C 2C7C-2C7D 2D6F 2E2F 3005 3031-3035
    303B 309D-309E 30FC-30FE A015 A4F8-A4FD A60C A67F A69C-A69D A717-A71F A770 A788 A7F1-A7F4
    A7F8-A7F9 A9CF A9E6 AA70 AADD AAF3-AAF4 AB5C-AB5F AB69 FF70 FF9E-FF9F 10780-10785
    10787-107B0 107B2-107BA 10D4E 10D6F 10EC5 11DD9 16B40-16B43 16D40-16D42 16D6B-16D6C
    16F93-16F9F 16FE0-16FE1 16FE3 16FF2-16FF3 1AFF0-1AFF3 1AFF5-1AFFB 1AFFD-1AFFE 1E030-1E06D
    1E137-1E13D 1E4EB 1E6FF 1E94B; lo,otherletter:AA BA 1BB 1C0-1C3 294-295 5D0-5EA 5EF-5F2
    620-63F 641-64A 66E-66F 671-6D3 6D5 6EE-6EF 6FA-6FC 6FF 710 712-72F 74D-7A5 7B1 7CA-7EA
    800-815 840-858 860-86A 870-887 889-88F 8A0-8C8 904-939 93D 950 958-961 972-980 985-98C
    98F-990 993-9A8 9AA-9B0 9B2 9B6-9B9 9BD 9CE 9DC-9DD 9DF-9E1 9F0-9F1 9FC A05-A0A A0F-A10
    A13-A28 A2A-A30 A32-A33 A35-A36 A38-A39 A59-A5C A5E A72-A74 A85-A8D A8F-A91 A93-AA8 AAA-AB0
    AB2-AB3 AB5-AB9 ABD AD0 AE0-AE1 AF9 B05-B0C B0F-B10 B13-B28 B2A-B30 B32-B33 B35-B39 B3D
    B5C-B5D B5F-B61 B71 B83 B85-B8A B8E-B90 B92-B95 B99-B9A B9C B9E-B9F BA3-BA4 BA8-BAA BAE-BB9
    BD0 C05-C0C C0E-C10 C12-C28 C2A-C39 C3D C58-C5A C5C-C5D C60-C61 C80 C85-C8C C8E-C90 C92-CA8
    CAA-CB3 CB5-CB9 CBD CDC-CDE CE0-CE1 CF1-CF2 D04-D0C D0E-D10 D12-D3A D3D D4E D54-D56 D5F-D61
    D7A-D7F D85-D96 D9A-DB1 DB3-DBB DBD DC0-DC6 E01-E30 E32-E33 E40-E45 E81-E82 E84 E86-E8A
    E8C-EA3 EA5 EA7-EB0 EB2-EB3 EBD EC0-EC4 EDC-EDF F00 F40-F47 F49-F6C F88-F8C 1000-102A 103F
    1050-1055 105A-105D 1061 1065-1066 106E-1070 1075-1081 108E 1100-1248 124A-124D 1250-1256
    1258 125A-125D 1260-1288 128A-128D 1290-12B0 12B2-12B5 12B8-12BE 12C0 12C2-12C5 12C8-12D6
    12D8-1310 1312-1315 1318-135A 1380-138F 1401-166C 166F-167F 1681-169A 16A0-16EA 16F1-16F8
    1700-1711 171F-1731 1740-1751 1760-176C 176E-1770 1780-17B3 17DC 1820-1842 1844-1878
    1880-1884 1887-18A8 18AA 18B0-18F5 1900-191E 1950-196D 1970-1974 1980-19AB 19B0-19C9
    1A00-1A16 1A20-1A54 1B05-1B33 1B45-1B4C 1B83-1BA0 1BAE-1BAF 1BBA-1BE5 1C00-1C23 1C4D-1C4F
    1C5A-1C77 1CE9-1CEC 1CEE-1CF3 1CF5-1CF6 1CFA 2135-2138 2D30-2D67 2D80-2D96 2DA0-2DA6
    2DA8-2DAE 2DB0-2DB6 2DB8-2DBE 2DC0-2DC6 2DC8-2DCE 2DD0-2DD6 2DD8-2DDE 3006 303C 3041-3096
    309F 30A1-30FA 30FF 3105-312F 3131-318E 31A0-31BF 31F0-31FF 3400-4DBF 4E00-A014 A016-A48C
    A4D0-A4F7 A500-A60B A610-A61F A62A-A62B A66E A6A0-A6E5 A78F A7F7 A7FB-A801 A803-A805
    A807-A80A A80C-A822 A840-A873 A882-A8B3 A8F2-A8F7 A8FB A8FD-A8FE A90A-A925 A930-A946
    A960-A97C A984-A9B2 A9E0-A9E4 A9E7-A9EF A9FA-A9FE AA00-AA28 AA40-AA42 AA44-AA4B AA60-AA6F
    AA71-AA76 AA7A AA7E-AAAF AAB1 AAB5-AAB6 AAB9-AABD AAC0 AAC2 AADB-AADC AAE0-AAEA AAF2
    AB01-AB06 AB09-AB0E AB11-AB16 AB20-AB26 AB28-AB2E ABC0-ABE2 AC00-D7A3 D7B0-D7C6 D7CB-D7FB
    F900-FA6D FA70-FAD9 FB1D FB1F-FB28 FB2A-FB36 FB38-FB3C FB3E FB40-FB41 FB43-FB44 FB46-FBB1
    FBD3-FD3D FD50-FD8F FD92-FDC7 FDF0-FDFB FE70-FE74 FE76-FEFC FF66-FF6F FF71-FF9D FFA0-FFBE
    FFC2-FFC7 FFCA-FFCF FFD2-FFD7 FFDA-FFDC 10000-1000B 1000D-10026 10028-1003A 1003C-1003D
    1003F-1004D 10050-1005D 10080-100FA 10280-1029C 102A0-102D0 10300-1031F 1032D-10340
    10342-10349 10350-10375 10380-1039D 103A0-103C3 103C8-103CF 10450-1049D 10500-10527
    10530-10563 105C0-105F3 10600-10736 10740-10755 10760-10767 10800-10805 10808 1080A-10835
    10837-10838 1083C 1083F-10855 10860-10876 10880-1089E 108E0-108F2 108F4-108F5 10900-10915
    10920-10939 10940-10959 10980-109B7 109BE-109BF 10A00 10A10-10A13 10A15-10A17 10A19-10A35
    10A60-10A7C 10A80-10A9C 10AC0-10AC7 10AC9-10AE4 10B00-10B35 10B40-10B55 10B60-10B72
    10B80-10B91 10C00-10C48 10D00-10D23 10D4A-10D4D 10D4F 10E80-10EA9 10EB0-10EB1 10EC2-10EC4
    10EC6-10EC7 10F00-10F1C 10F27 10F30-10F45 10F70-10F81 10FB0-10FC4 10FE0-10FF6 11003-11037
    11071-11072 11075 11083-110AF 110D0-110E8 11103-11126 11144 11147 11150-11172 11176
    11183-111B2 111C1-111C4 111DA 111DC 11200-11211 11213-1122B 1123F-11240 11280-11286 11288
    1128A-1128D 1128F-1129D 1129F-112A8 112B0-112DE 11305-1130C 1130F-11310 11313-11328
    1132A-11330 11332-11333 11335-11339 1133D 11350 1135D-11361 11380-11389 1138B 1138E
    11390-113B5 113B7 113D1 113D3 11400-11434 11447-1144A 1145F-11461 11480-114AF 114C4-114C5
    114C7 11580-115AE 115D8-115DB 11600-1162F 11644 11680-116AA 116B8 11700-1171A 11740-11746
    11800-1182B 118FF-11906 11909 1190C-11913 11915-11916 11918-1192F 1193F 11941 119A0-119A7
    119AA-119D0 119E1 119E3 11A00 11A0B-11A32 11A3A 11A50 11A5C-11A89 11A9D 11AB0-11AF8
    11BC0-11BE0 11C00-11C08 11C0A-11C2E 11C40 11C72-11C8F 11D00-11D06 11D08-11D09 11D0B-11D30
    11D46 11D60-11D65 11D67-11D68 11D6A-11D89 11D98 11DB0-11DD8 11DDA-11DDB 11EE0-11EF2 11F02
    11F04-11F10 11F12-11F33 11FB0 12000-12399 12480-12543 12F90-12FF0 13000-1342F 13441-13446
    13460-143FA 14400-14646 16100-1611D 16800-16A38 16A40-16A5E 16A70-16ABE 16AD0-16AED
    16B00-16B2F 16B63-16B77 16B7D-16B8F 16D43-16D6A 16F00-16F4A 16F50 17000-18CD5 18CFF-18D1E
    18D80-18DF2 1B000-1B122 1B132 1B150-1B152 1B155 1B164-1B167 1B170-1B2FB 1BC00-1BC6A
    1BC70-1BC7C 1BC80-1BC88 1BC90-1BC99 1DF0A 1E100-1E12C 1E14E 1E290-1E2AD 1E2C0-1E2EB
    1E4D0-1E4EA 1E5D0-1E5ED 1E5F0 1E6C0-1E6DE 1E6E0-1E6E2 1E6E4-1E6E5 1E6E7-1E6ED 1E6F0-1E6F4
    1E6FE 1E7E0-1E7E6 1E7E8-1E7EB 1E7ED-1E7EE 1E7F0-1E7FE 1E800-1E8C4 1EE00-1EE03 1EE05-1EE1F
    1EE21-1EE22 1EE24 1EE27 1EE29-1EE32 1EE34-1EE37 1EE39 1EE3B 1EE42 1EE47 1EE49 1EE4B
    1EE4D-1EE4F 1EE51-1EE52 1EE54 1EE57 1EE59 1EE5B 1EE5D 1EE5F 1EE61-1EE62 1EE64 1EE67-1EE6A
    1EE6C-1EE72 1EE74-1EE77 1EE79-1EE7C 1EE7E 1EE80-1EE89 1EE8B-1EE9B 1EEA1-1EEA3 1EEA5-1EEA9
    1EEAB-1EEBB 20000-2A6DF 2A700-2B81D 2B820-2CEAD 2CEB0-2EBE0 2EBF0-2EE5D 2F800-2FA1D
    30000-3134A 31350-33479; mn,nonspacingmark:300-36F 483-487 591-5BD 5BF 5C1-5C2 5C4-5C5 5C7
    610-61A 64B-65F 670 6D6-6DC 6DF-6E4 6E7-6E8 6EA-6ED 711 730-74A 7A6-7B0 7EB-7F3 7FD 816-819
    81B-823 825-827 829-82D 859-85B 897-89F 8CA-8E1 8E3-902 93A 93C 941-948 94D 951-957 962-963
    981 9BC 9C1-9C4 9CD 9E2-9E3 9FE A01-A02 A3C A41-A42 A47-A48 A4B-A4D A51 A70-A71 A75 A81-A82
    ABC AC1-AC5 AC7-AC8 ACD AE2-AE3 AFA-AFF B01 B3C B3F B41-B44 B4D B55-B56 B62-B63 B82 BC0 BCD
    C00 C04 C3C C3E-C40 C46-C48 C4A-C4D C55-C56 C62-C63 C81 CBC CBF CC6 CCC-CCD CE2-CE3 D00-D01
    D3B-D3C D41-D44 D4D D62-D63 D81 DCA DD2-DD4 DD6 E31 E34-E3A E47-E4E EB1 EB4-EBC EC8-ECE
    F18-F19 F35 F37 F39 F71-F7E F80-F84 F86-F87 F8D-F97 F99-FBC FC6 102D-1030 1032-1037
    1039-103A 103D-103E 1058-1059 105E-1060 1071-1074 1082 1085-1086 108D 109D 135D-135F
    1712-1714 1732-1733 1752-1753 1772-1773 17B4-17B5 17B7-17BD 17C6 17C9-17D3 17DD 180B-180D
    180F 1885-1886 18A9 1920-1922 1927-1928 1932 1939-193B 1A17-1A18 1A1B 1A56 1A58-1A5E 1A60
    1A62 1A65-1A6C 1A73-1A7C 1A7F 1AB0-1ABD 1ABF-1ADD 1AE0-1AEB 1B00-1B03 1B34 1B36-1B3A 1B3C
    1B42 1B6B-1B73 1B80-1B81 1BA2-1BA5 1BA8-1BA9 1BAB-1BAD 1BE6 1BE8-1BE9 1BED 1BEF-1BF1
    1C2C-1C33 1C36-1C37 1CD0-1CD2 1CD4-1CE0 1CE2-1CE8 1CED 1CF4 1CF8-1CF9 1DC0-1DFF 20D0-20DC
    20E1 20E5-20F0 2CEF-2CF1 2D7F 2DE0-2DFF 302A-302D 3099-309A A66F A674-A67D A69E-A69F
    A6F0-A6F1 A802 A806 A80B A825-A826 A82C A8C4-A8C5 A8E0-A8F1 A8FF A926-A92D A947-A951
    A980-A982 A9B3 A9B6-A9B9 A9BC-A9BD A9E5 AA29-AA2E AA31-AA32 AA35-AA36 AA43 AA4C AA7C AAB0
    AAB2-AAB4 AAB7-AAB8 AABE-AABF AAC1 AAEC-AAED AAF6 ABE5 ABE8 ABED FB1E FE00-FE0F FE20-FE2F
    101FD 102E0 10376-1037A 10A01-10A03 10A05-10A06 10A0C-10A0F 10A38-10A3A 10A3F 10AE5-10AE6
    10D24-10D27 10D69-10D6D 10EAB-10EAC 10EFA-10EFF 10F46-10F50 10F82-10F85 11001 11038-11046
    11070 11073-11074 1107F-11081 110B3-110B6 110B9-110BA 110C2 11100-11102 11127-1112B
    1112D-11134 11173 11180-11181 111B6-111BE 111C9-111CC 111CF 1122F-11231 11234 11236-11237
    1123E 11241 112DF 112E3-112EA 11300-11301 1133B-1133C 11340 11366-1136C 11370-11374
    113BB-113C0 113CE 113D0 113D2 113E1-113E2 11438-1143F 11442-11444 11446 1145E 114B3-114B8
    114BA 114BF-114C0 114C2-114C3 115B2-115B5 115BC-115BD 115BF-115C0 115DC-115DD 11633-1163A
    1163D 1163F-11640 116AB 116AD 116B0-116B5 116B7 1171D 1171F 11722-11725 11727-1172B
    1182F-11837 11839-1183A 1193B-1193C 1193E 11943 119D4-119D7 119DA-119DB 119E0 11A01-11A0A
    11A33-11A38 11A3B-11A3E 11A47 11A51-11A56 11A59-11A5B 11A8A-11A96 11A98-11A99 11B60
    11B62-11B64 11B66 11C30-11C36 11C38-11C3D 11C3F 11C92-11CA7 11CAA-11CB0 11CB2-11CB3
    11CB5-11CB6 11D31-11D36 11D3A 11D3C-11D3D 11D3F-11D45 11D47 11D90-11D91 11D95 11D97
    11EF3-11EF4 11F00-11F01 11F36-11F3A 11F40 11F42 11F5A 13440 13447-13455 1611E-16129
    1612D-1612F 16AF0-16AF4 16B30-16B36 16F4F 16F8F-16F92 16FE4 1BC9D-1BC9E 1CF00-1CF2D
    1CF30-1CF46 1D167-1D169 1D17B-1D182 1D185-1D18B 1D1AA-1D1AD 1D242-1D244 1DA00-1DA36
    1DA3B-1DA6C 1DA75 1DA84 1DA9B-1DA9F 1DAA1-1DAAF 1E000-1E006 1E008-1E018 1E01B-1E021
    1E023-1E024 1E026-1E02A 1E08F 1E130-1E136 1E2AE 1E2EC-1E2EF 1E4EC-1E4EF 1E5EE-1E5EF 1E6E3
    1E6E6 1E6EE-1E6EF 1E6F5 1E8D0-1E8D6 1E944-1E94A E0100-E01EF; mc,spacingmark:903 93B 93E-940
    949-94C 94E-94F 982-983 9BE-9C0 9C7-9C8 9CB-9CC 9D7 A03 A3E-A40 A83 ABE-AC0 AC9 ACB-ACC
    B02-B03 B3E B40 B47-B48 B4B-B4C B57 BBE-BBF BC1-BC2 BC6-BC8 BCA-BCC BD7 C01-C03 C41-C44
    C82-C83 CBE CC0-CC4 CC7-CC8 CCA-CCB CD5-CD6 CF3 D02-D03 D3E-D40 D46-D48 D4A-D4C D57 D82-D83
    DCF-DD1 DD8-DDF DF2-DF3 F3E-F3F F7F 102B-102C 1031 1038 103B-103C 1056-1057 1062-1064
    1067-106D 1083-1084 1087-108C 108F 109A-109C 1715 1734 17B6 17BE-17C5 17C7-17C8 1923-1926
    1929-192B 1930-1931 1933-1938 1A19-1A1A 1A55 1A57 1A61 1A63-1A64 1A6D-1A72 1B04 1B35 1B3B
    1B3D-1B41 1B43-1B44 1B82 1BA1 1BA6-1BA7 1BAA 1BE7 1BEA-1BEC 1BEE 1BF2-1BF3 1C24-1C2B
    1C34-1C35 1CE1 1CF7 302E-302F A823-A824 A827 A880-A881 A8B4-A8C3 A952-A953 A983 A9B4-A9B5
    A9BA-A9BB A9BE-A9C0 AA2F-AA30 AA33-AA34 AA4D AA7B AA7D AAEB AAEE-AAEF AAF5 ABE3-ABE4
    ABE6-ABE7 ABE9-ABEA ABEC 11000 11002 11082 110B0-110B2 110B7-110B8 1112C 11145-11146 11182
    111B3-111B5 111BF-111C0 111CE 1122C-1122E 11232-11233 11235 112E0-112E2 11302-11303
    1133E-1133F 11341-11344 11347-11348 1134B-1134D 11357 11362-11363 113B8-113BA 113C2 113C5
    113C7-113CA 113CC-113CD 113CF 11435-11437 11440-11441 11445 114B0-114B2 114B9 114BB-114BE
    114C1 115AF-115B1 115B8-115BB 115BE 11630-11632 1163B-1163C 1163E 116AC 116AE-116AF 116B6
    1171E 11720-11721 11726 1182C-1182E 11838 11930-11935 11937-11938 1193D 11940 11942
    119D1-119D3 119DC-119DF 119E4 11A39 11A57-11A58 11A97 11B61 11B65 11B67 11C2F 11C3E 11CA9
    11CB1 11CB4 11D8A-11D8E 11D93-11D94 11D96 11EF5-11EF6 11F03 11F34-11F35 11F3E-11F3F 11F41
    1612A-1612C 16F51-16F87 16FF0-16FF1 1D165-1D166 1D16D-1D172; me,enclosingmark:488-489 1ABE
    20DD-20E0 20E2-20E4 A670-A672; nd,decimalnumber,digit:30-39 660-669 6F0-6F9 7C0-7C9 966-96F
    9E6-9EF A66-A6F AE6-AEF B66-B6F BE6-BEF C66-C6F CE6-CEF D66-D6F DE6-DEF E50-E59 ED0-ED9
    F20-F29 1040-1049 1090-1099 17E0-17E9 1810-1819 1946-194F 19D0-19D9 1A80-1A89 1A90-1A99
    1B50-1B59 1BB0-1BB9 1C40-1C49 1C50-1C59 A620-A629 A8D0-A8D9 A900-A909 A9D0-A9D9 A9F0-A9F9
    AA50-AA59 ABF0-ABF9 FF10-FF19 104A0-104A9 10D30-10D39 10D40-10D49 11066-1106F 110F0-110F9
    11136-1113F 111D0-111D9 112F0-112F9 11450-11459 114D0-114D9 11650-11659 116C0-116C9
    116D0-116E3 11730-11739 118E0-118E9 11950-11959 11BF0-11BF9 11C50-11C59 11D50-11D59
    11DA0-11DA9 11DE0-11DE9 11F50-11F59 16130-16139 16A60-16A69 16AC0-16AC9 16B50-16B59
    16D70-16D79 1CCF0-1CCF9 1D7CE-1D7FF 1E140-1E149 1E2F0-1E2F9 1E4F0-1E4F9 1E5F1-1E5FA
    1E950-1E959 1FBF0-1FBF9; nl,letternumber:16EE-16F0 2160-2182 2185-2188 3007 3021-3029
    3038-303A A6E6-A6EF 10140-10174 10341 1034A 103D1-103D5 12400-1246E 16FF4-16FF6;
    no,othernumber:B2-B3 B9 BC-BE 9F4-9F9 B72-B77 BF0-BF2 C78-C7E D58-D5E D70-D78 F2A-F33
    1369-137C 17F0-17F9 19DA 2070 2074-2079 2080-2089 2150-215F 2189 2460-249B 24EA-24FF
    2776-2793 2CFD 3192-3195 3220-3229 3248-324F 3251-325F 3280-3289 32B1-32BF A830-A835
    10107-10133 10175-10178 1018A-1018B 102E1-102FB 10320-10323 10858-1085F 10879-1087F
    108A7-108AF 108FB-108FF 10916-1091B 109BC-109BD 109C0-109CF 109D2-109FF 10A40-10A48
    10A7D-10A7E 10A9D-10A9F 10AEB-10AEF 10B58-10B5F 10B78-10B7F 10BA9-10BAF 10CFA-10CFF
    10E60-10E7E 10F1D-10F26 10F51-10F54 10FC5-10FCB 11052-11065 111E1-111F4 1173A-1173B
    118EA-118F2 11C5A-11C6C 11FC0-11FD4 16B5B-16B61 16E80-16E96 1D2C0-1D2D3 1D2E0-1D2F3
    1D360-1D378 1E8C7-1E8CF 1EC71-1ECAB 1ECAD-1ECAF 1ECB1-1ECB4 1ED01-1ED2D 1ED2F-1ED3D
    1F100-1F10C; pc,connectorpunctuation:5F 203F-2040 2054 FE33-FE34 FE4D-FE4F FF3F;
    pd,dashpunctuation:2D 58A 5BE 1400 1806 2010-2015 2E17 2E1A 2E3A-2E3B 2E40 2E5D 301C 3030
    30A0 FE31-FE32 FE58 FE63 FF0D 10D6E 10EAD; ps,openpunctuation:28 5B 7B F3A F3C 169B 201A
    201E 2045 207D 208D 2308 230A 2329 2768 276A 276C 276E 2770 2772 2774 27C5 27E6 27E8 27EA
    27EC 27EE 2983 2985 2987 2989 298B 298D 298F 2991 2993 2995 2997 29D8 29DA 29FC 2E22 2E24
    2E26 2E28 2E42 2E55 2E57 2E59 2E5B 3008 300A 300C 300E 3010 3014 3016 3018 301A 301D FD3F
    FE17 FE35 FE37 FE39 FE3B FE3D FE3F FE41 FE43 FE47 FE59 FE5B FE5D FF08 FF3B FF5B FF5F FF62;
    pe,closepunctuation:29 5D 7D F3B F3D 169C 2046 207E 208E 2309 230B 232A 2769 276B 276D 276F
    2771 2773 2775 27C6 27E7 27E9 27EB 27ED 27EF 2984 2986 2988 298A 298C 298E 2990 2992 2994
    2996 2998 29D9 29DB 29FD 2E23 2E25 2E27 2E29 2E56 2E58 2E5A 2E5C 3009 300B 300D 300F 3011
    3015 3017 3019 301B 301E-301F FD3E FE18 FE36 FE38 FE3A FE3C FE3E FE40 FE42 FE44 FE48 FE5A
    FE5C FE5E FF09 FF3D FF5D FF60 FF63; pi,initialpunctuation:AB 2018 201B-201C 201F 2039 2E02
    2E04 2E09 2E0C 2E1C 2E20; pf,finalpunctuation:BB 2019 201D 203A 2E03 2E05 2E0A 2E0D 2E1D
    2E21; po,otherpunctuation:21-23 25-27 2A 2C 2E-2F 3A-3B 3F-40 5C A1 A7 B6-B7 BF 37E 387
    55A-55F 589 5C0 5C3 5C6 5F3-5F4 609-60A 60C-60D 61B 61D-61F 66A-66D 6D4 700-70D 7F7-7F9
    830-83E 85E 964-965 970 9FD A76 AF0 C77 C84 DF4 E4F E5A-E5B F04-F12 F14 F85 FD0-FD4 FD9-FDA
    104A-104F 10FB 1360-1368 166E 16EB-16ED 1735-1736 17D4-17D6 17D8-17DA 1800-1805 1807-180A
    1944-1945 1A1E-1A1F 1AA0-1AA6 1AA8-1AAD 1B4E-1B4F 1B5A-1B60 1B7D-1B7F 1BFC-1BFF 1C3B-1C3F
    1C7E-1C7F 1CC0-1CC7 1CD3 2016-2017 2020-2027 2030-2038 203B-203E 2041-2043 2047-2051 2053
    2055-205E 2CF9-2CFC 2CFE-2CFF 2D70 2E00-2E01 2E06-2E08 2E0B 2E0E-2E16 2E18-2E19 2E1B
    2E1E-2E1F 2E2A-2E2E 2E30-2E39 2E3C-2E3F 2E41 2E43-2E4F 2E52-2E54 3001-3003 303D 30FB
    A4FE-A4FF A60D-A60F A673 A67E A6F2-A6F7 A874-A877 A8CE-A8CF A8F8-A8FA A8FC A92E-A92F A95F
    A9C1-A9CD A9DE-A9DF AA5C-AA5F AADE-AADF AAF0-AAF1 ABEB FE10-FE16 FE19 FE30 FE45-FE46
    FE49-FE4C FE50-FE52 FE54-FE57 FE5F-FE61 FE68 FE6A-FE6B FF01-FF03 FF05-FF07 FF0A FF0C
    FF0E-FF0F FF1A-FF1B FF1F-FF20 FF3C FF61 FF64-FF65 10100-10102 1039F 103D0 1056F 10857 1091F
    1093F 10A50-10A58 10A7F 10AF0-10AF6 10B39-10B3F 10B99-10B9C 10ED0 10F55-10F59 10F86-10F89
    11047-1104D 110BB-110BC 110BE-110C1 11140-11143 11174-11175 111C5-111C8 111CD 111DB
    111DD-111DF 11238-1123D 112A9 113D4-113D5 113D7-113D8 1144B-1144F 1145A-1145B 1145D 114C6
    115C1-115D7 11641-11643 11660-1166C 116B9 1173C-1173E 1183B 11944-11946 119E2 11A3F-11A46
    11A9A-11A9C 11A9E-11AA2 11B00-11B09 11BE1 11C41-11C45 11C70-11C71 11EF7-11EF8 11F43-11F4F
    11FFF 12470-12474 12FF1-12FF2 16A6E-16A6F 16AF5 16B37-16B3B 16B44 16D6D-16D6F 16E97-16E9A
    16FE2 1BC9F 1DA87-1DA8B 1E5FF 1E95E-1E95F; sm,mathsymbol:2B 3C-3E 7C 7E AC B1 D7 F7 3F6
    606-608 2044 2052 207A-207C 208A-208C 2118 2140-2144 214B 2190-2194 219A-219B 21A0 21A3 21A6
    21AE 21CE-21CF 21D2 21D4 21F4-22FF 2320-2321 237C 239B-23B3 23DC-23E1 25B7 25C1 25F8-25FF
    266F 27C0-27C4 27C7-27E5 27F0-27FF 2900-2982 2999-29D7 29DC-29FB 29FE-2AFF 2B30-2B44
    2B47-2B4C FB29 FE62 FE64-FE66 FF0B FF1C-FF1E FF5C FF5E FFE2 FFE9-FFEC 10D8E-10D8F 1CEF0
    1D6C1 1D6DB 1D6FB 1D715 1D735 1D74F 1D76F 1D789 1D7A9 1D7C3 1EEF0-1EEF1 1F8D0-1F8D8;
    sc,currencysymbol:24 A2-A5 58F 60B 7FE-7FF 9F2-9F3 9FB AF1 BF9 E3F 17DB 20A0-20C1 A838 FDFC
    FE69 FF04 FFE0-FFE1 FFE5-FFE6 11FDD-11FE0 1E2FF 1ECB0; sk,modifiersymbol:5E 60 A8 AF B4 B8
    2C2-2C5 2D2-2DF 2E5-2EB 2ED 2EF-2FF 375 384-385 888 1FBD 1FBF-1FC1 1FCD-1FCF 1FDD-1FDF
    1FED-1FEF 1FFD-1FFE 309B-309C A700-A716 A720-A721 A789-A78A AB5B AB6A-AB6B FBB2-FBC2 FF3E
    FF40 FFE3 1F3FB-1F3FF; so,othersymbol:A6 A9 AE B0 482 58D-58E 60E-60F 6DE 6E9 6FD-6FE 7F6
    9FA B70 BF3-BF8 BFA C7F D4F D79 F01-F03 F13 F15-F17 F1A-F1F F34 F36 F38 FBE-FC5 FC7-FCC
    FCE-FCF FD5-FD8 109E-109F 1390-1399 166D 1940 19DE-19FF 1B61-1B6A 1B74-1B7C 2100-2101
    2103-2106 2108-2109 2114 2116-2117 211E-2123 2125 2127 2129 212E 213A-213B 214A 214C-214D
    214F 218A-218B 2195-2199 219C-219F 21A1-21A2 21A4-21A5 21A7-21AD 21AF-21CD 21D0-21D1 21D3
    21D5-21F3 2300-2307 230C-231F 2322-2328 232B-237B 237D-239A 23B4-23DB 23E2-2429 2440-244A
    249C-24E9 2500-25B6 25B8-25C0 25C2-25F7 2600-266E 2670-2767 2794-27BF 2800-28FF 2B00-2B2F
    2B45-2B46 2B4D-2B73 2B76-2BFF 2CE5-2CEA 2E50-2E51 2E80-2E99 2E9B-2EF3 2F00-2FD5 2FF0-2FFF
    3004 3012-3013 3020 3036-3037 303E-303F 3190-3191 3196-319F 31C0-31E5 31EF 3200-321E
    322A-3247 3250 3260-327F 328A-32B0 32C0-33FF 4DC0-4DFF A490-A4C6 A828-A82B A836-A837 A839
    AA77-AA79 FBC3-FBD2 FD40-FD4F FD90-FD91 FDC8-FDCF FDFD-FDFF FFE4 FFE8 FFED-FFEE FFFC-FFFD
    10137-1013F 10179-10189 1018C-1018E 10190-1019C 101A0 101D0-101FC 10877-10878 10AC8
    10ED1-10ED8 1173F 11FD5-11FDC 11FE1-11FF1 16B3C-16B3F 16B45 1BC9C 1CC00-1CCEF 1CCFA-1CCFC
    1CD00-1CEB3 1CEBA-1CED0 1CEE0-1CEEF 1CF50-1CFC3 1D000-1D0F5 1D100-1D126 1D129-1D164
    1D16A-1D16C 1D183-1D184 1D18C-1D1A9 1D1AE-1D1EA 1D200-1D241 1D245 1D300-1D356 1D800-1D9FF
    1DA37-1DA3A 1DA6D-1DA74 1DA76-1DA83 1DA85-1DA86 1E14F 1ECAC 1ED2E 1F000-1F02B 1F030-1F093
    1F0A0-1F0AE 1F0B1-1F0BF 1F0C1-1F0CF 1F0D1-1F0F5 1F10D-1F1AD 1F1E6-1F202 1F210-1F23B
    1F240-1F248 1F250-1F251 1F260-1F265 1F300-1F3FA 1F400-1F6D8 1F6DC-1F6EC 1F6F0-1F6FC
    1F700-1F7D9 1F7E0-1F7EB 1F7F0 1F800-1F80B 1F810-1F847 1F850-1F859 1F860-1F887 1F890-1F8AD
    1F8B0-1F8BB 1F8C0-1F8C1 1F900-1FA57 1FA60-1FA6D 1FA70-1FA7C 1FA80-1FA8A 1FA8E-1FAC6 1FAC8
    1FACD-1FADC 1FADF-1FAEA 1FAEF-1FAF8 1FB00-1FB92 1FB94-1FBEF 1FBFA; zs,spaceseparator:20 A0
    1680 2000-200A 202F 205F 3000; zl,lineseparator:2028; zp,paragraphseparator:2029;
    cc,control,cntrl:0-1F 7F-9F; cf,format:AD 600-605 61C 6DD 70F 890-891 8E2 180E 200B-200F
    202A-202E 2060-2064 2066-206F FEFF FFF9-FFFB 110BD 110CD 13430-1343F 1BCA0-1BCA3 1D173-1D17A
    E0001 E0020-E007F; co,privateuse:E000-F8FF F0000-FFFFD 100000-10FFFD"

/-- The scripts. -/
def scripts : List NamedClass := namedClassesOfText
  "adlm,adlam:1E900-1E94B 1E950-1E959 1E95E-1E95F; aghb,caucasianalbanian:10530-10563 1056F;
    ahom:11700-1171A 1171D-1172B 11730-11746; arab,arabic:600-604 606-60B 60D-61A 61C-61E
    620-63F 641-64A 656-66F 671-6DC 6DE-6FF 750-77F 870-891 897-8E1 8E3-8FF FB50-FD3D FD40-FDCF
    FDF0-FDFF FE70-FE74 FE76-FEFC 10E60-10E7E 10EC2-10EC7 10ED0-10ED8 10EFA-10EFF 1EE00-1EE03
    1EE05-1EE1F 1EE21-1EE22 1EE24 1EE27 1EE29-1EE32 1EE34-1EE37 1EE39 1EE3B 1EE42 1EE47 1EE49
    1EE4B 1EE4D-1EE4F 1EE51-1EE52 1EE54 1EE57 1EE59 1EE5B 1EE5D 1EE5F 1EE61-1EE62 1EE64
    1EE67-1EE6A 1EE6C-1EE72 1EE74-1EE77 1EE79-1EE7C 1EE7E 1EE80-1EE89 1EE8B-1EE9B 1EEA1-1EEA3
    1EEA5-1EEA9 1EEAB-1EEBB 1EEF0-1EEF1; armi,imperialaramaic:10840-10855 10857-1085F;
    armn,armenian:531-556 559-58A 58D-58F FB13-FB17; avst,avestan:10B00-10B35 10B39-10B3F;
    bali,balinese:1B00-1B4C 1B4E-1B7F; bamu,bamum:A6A0-A6F7 16800-16A38;
    bass,bassavah:16AD0-16AED 16AF0-16AF5; batk,batak:1BC0-1BF3 1BFC-1BFF; beng,bengali:980-983
    985-98C 98F-990 993-9A8 9AA-9B0 9B2 9B6-9B9 9BC-9C4 9C7-9C8 9CB-9CE 9D7 9DC-9DD 9DF-9E3
    9E6-9FE; bhks,bhaiksuki:11C00-11C08 11C0A-11C36 11C38-11C45 11C50-11C6C;
    bopo,bopomofo:2EA-2EB 3105-312F 31A0-31BF; brah,brahmi:11000-1104D 11052-11075 1107F;
    brai,braille:2800-28FF; bugi,buginese:1A00-1A1B 1A1E-1A1F; buhd,buhid:1740-1753;
    cakm,chakma:11100-11134 11136-11147; cans,canadianaboriginal:1400-167F 18B0-18F5
    11AB0-11ABF; cari,carian:102A0-102D0; cham:AA00-AA36 AA40-AA4D AA50-AA59 AA5C-AA5F;
    cher,cherokee:13A0-13F5 13F8-13FD AB70-ABBF; chrs,chorasmian:10FB0-10FCB;
    copt,coptic,qaac:3E2-3EF 2C80-2CF3 2CF9-2CFF; cpmn,cyprominoan:12F90-12FF2;
    cprt,cypriot:10800-10805 10808 1080A-10835 10837-10838 1083C 1083F; cyrl,cyrillic:400-484
    487-52F 1C80-1C8A 1D2B 1D78 2DE0-2DFF A640-A69F FE2E-FE2F 1E030-1E06D 1E08F;
    deva,devanagari:900-950 955-963 966-97F A8E0-A8FF 11B00-11B09; diak,divesakuru:11900-11906
    11909 1190C-11913 11915-11916 11918-11935 11937-11938 1193B-11946 11950-11959;
    dogr,dogra:11800-1183B; dsrt,deseret:10400-1044F; dupl,duployan:1BC00-1BC6A 1BC70-1BC7C
    1BC80-1BC88 1BC90-1BC99 1BC9C-1BC9F; egyp,egyptianhieroglyphs:13000-13455 13460-143FA;
    elba,elbasan:10500-10527; elym,elymaic:10FE0-10FF6; ethi,ethiopic:1200-1248 124A-124D
    1250-1256 1258 125A-125D 1260-1288 128A-128D 1290-12B0 12B2-12B5 12B8-12BE 12C0 12C2-12C5
    12C8-12D6 12D8-1310 1312-1315 1318-135A 135D-137C 1380-1399 2D80-2D96 2DA0-2DA6 2DA8-2DAE
    2DB0-2DB6 2DB8-2DBE 2DC0-2DC6 2DC8-2DCE 2DD0-2DD6 2DD8-2DDE AB01-AB06 AB09-AB0E AB11-AB16
    AB20-AB26 AB28-AB2E 1E7E0-1E7E6 1E7E8-1E7EB 1E7ED-1E7EE 1E7F0-1E7FE; geor,georgian:10A0-10C5
    10C7 10CD 10D0-10FA 10FC-10FF 1C90-1CBA 1CBD-1CBF 2D00-2D25 2D27 2D2D;
    glag,glagolitic:2C00-2C5F 1E000-1E006 1E008-1E018 1E01B-1E021 1E023-1E024 1E026-1E02A;
    gong,gunjalagondi:11D60-11D65 11D67-11D68 11D6A-11D8E 11D90-11D91 11D93-11D98 11DA0-11DA9;
    gonm,masaramgondi:11D00-11D06 11D08-11D09 11D0B-11D36 11D3A 11D3C-11D3D 11D3F-11D47
    11D50-11D59; goth,gothic:10330-1034A; gran,grantha:11300-11303 11305-1130C 1130F-11310
    11313-11328 1132A-11330 11332-11333 11335-11339 1133C-11344 11347-11348 1134B-1134D 11350
    11357 1135D-11363 11366-1136C 11370-11374; grek,greek:370-373 375-377 37A-37D 37F 384 386
    388-38A 38C 38E-3A1 3A3-3E1 3F0-3FF 1D26-1D2A 1D5D-1D61 1D66-1D6A 1DBF 1F00-1F15 1F18-1F1D
    1F20-1F45 1F48-1F4D 1F50-1F57 1F59 1F5B 1F5D 1F5F-1F7D 1F80-1FB4 1FB6-1FC4 1FC6-1FD3
    1FD6-1FDB 1FDD-1FEF 1FF2-1FF4 1FF6-1FFE 2126 AB65 10140-1018E 101A0 1D200-1D245;
    gujr,gujarati:A81-A83 A85-A8D A8F-A91 A93-AA8 AAA-AB0 AB2-AB3 AB5-AB9 ABC-AC5 AC7-AC9
    ACB-ACD AD0 AE0-AE3 AE6-AF1 AF9-AFF; guru,gurmukhi:A01-A03 A05-A0A A0F-A10 A13-A28 A2A-A30
    A32-A33 A35-A36 A38-A39 A3C A3E-A42 A47-A48 A4B-A4D A51 A59-A5C A5E A66-A76;
    hang,hangul:1100-11FF 302E-302F 3131-318E 3200-321E 3260-327E A960-A97C AC00-D7A3 D7B0-D7C6
    D7CB-D7FB FFA0-FFBE FFC2-FFC7 FFCA-FFCF FFD2-FFD7 FFDA-FFDC; hani,han:2E80-2E99 2E9B-2EF3
    2F00-2FD5 3005 3007 3021-3029 3038-303B 3400-4DBF 4E00-9FFF F900-FA6D FA70-FAD9 16FE2-16FE3
    16FF0-16FF6 20000-2A6DF 2A700-2B81D 2B820-2CEAD 2CEB0-2EBE0 2EBF0-2EE5D 2F800-2FA1D
    30000-3134A 31350-33479; hano,hanunoo:1720-1734; hatr,hatran:108E0-108F2 108F4-108F5
    108FB-108FF; hebr,hebrew:591-5C7 5D0-5EA 5EF-5F4 FB1D-FB36 FB38-FB3C FB3E FB40-FB41
    FB43-FB44 FB46-FB4F; hira,hiragana:3041-3096 309D-309F 1B001-1B11F 1B132 1B150-1B152 1F200;
    hluw,anatolianhieroglyphs:14400-14646; hmng,pahawhhmong:16B00-16B45 16B50-16B59 16B5B-16B61
    16B63-16B77 16B7D-16B8F; hmnp,nyiakengpuachuehmong:1E100-1E12C 1E130-1E13D 1E140-1E149
    1E14E-1E14F; hung,oldhungarian:10C80-10CB2 10CC0-10CF2 10CFA-10CFF;
    ital,olditalic:10300-10323 1032D-1032F; java,javanese:A980-A9CD A9D0-A9D9 A9DE-A9DF;
    kali,kayahli:A900-A92D A92F; kana,katakana:30A1-30FA 30FD-30FF 31F0-31FF 32D0-32FE 3300-3357
    FF66-FF6F FF71-FF9D 1AFF0-1AFF3 1AFF5-1AFFB 1AFFD-1AFFE 1B000 1B120-1B122 1B155 1B164-1B167;
    kawi:11F00-11F10 11F12-11F3A 11F3E-11F5A; khar,kharoshthi:10A00-10A03 10A05-10A06
    10A0C-10A13 10A15-10A17 10A19-10A35 10A38-10A3A 10A3F-10A48 10A50-10A58;
    khmr,khmer:1780-17DD 17E0-17E9 17F0-17F9 19E0-19FF; khoj,khojki:11200-11211 11213-11241;
    kits,khitansmallscript:16FE4 18B00-18CD5 18CFF; knda,kannada:C80-C8C C8E-C90 C92-CA8 CAA-CB3
    CB5-CB9 CBC-CC4 CC6-CC8 CCA-CCD CD5-CD6 CDC-CDE CE0-CE3 CE6-CEF CF1-CF3;
    kthi,kaithi:11080-110C2 110CD; lana,taitham:1A20-1A5E 1A60-1A7C 1A7F-1A89 1A90-1A99
    1AA0-1AAD; laoo,lao:E81-E82 E84 E86-E8A E8C-EA3 EA5 EA7-EBD EC0-EC4 EC6 EC8-ECE ED0-ED9
    EDC-EDF; latn,latin:41-5A 61-7A AA BA C0-D6 D8-F6 F8-2B8 2E0-2E4 1D00-1D25 1D2C-1D5C
    1D62-1D65 1D6B-1D77 1D79-1DBE 1E00-1EFF 2071 207F 2090-209C 212A-212B 2132 214E 2160-2188
    2C60-2C7F A722-A787 A78B-A7DC A7F1-A7FF AB30-AB5A AB5C-AB64 AB66-AB69 FB00-FB06 FF21-FF3A
    FF41-FF5A 10780-10785 10787-107B0 107B2-107BA 1DF00-1DF1E 1DF25-1DF2A; lepc,lepcha:1C00-1C37
    1C3B-1C49 1C4D-1C4F; limb,limbu:1900-191E 1920-192B 1930-193B 1940 1944-194F;
    lina,lineara:10600-10736 10740-10755 10760-10767; linb,linearb:10000-1000B 1000D-10026
    10028-1003A 1003C-1003D 1003F-1004D 10050-1005D 10080-100FA; lisu:A4D0-A4FF 11FB0;
    lyci,lycian:10280-1029C; lydi,lydian:10920-10939 1093F; mahj,mahajani:11150-11176;
    maka,makasar:11EE0-11EF8; mand,mandaic:840-85B 85E; mani,manichaean:10AC0-10AE6 10AEB-10AF6;
    marc,marchen:11C70-11C8F 11C92-11CA7 11CA9-11CB6; medf,medefaidrin:16E40-16E9A;
    mend,mendekikakui:1E800-1E8C4 1E8C7-1E8D6; merc,meroiticcursive:109A0-109B7 109BC-109CF
    109D2-109FF; mero,meroitichieroglyphs:10980-1099F; mlym,malayalam:D00-D0C D0E-D10 D12-D44
    D46-D48 D4A-D4F D54-D63 D66-D7F; modi:11600-11644 11650-11659; mong,mongolian:1800-1801 1804
    1806-1819 1820-1878 1880-18AA 11660-1166C; mroo,mro:16A40-16A5E 16A60-16A69 16A6E-16A6F;
    mtei,meeteimayek:AAE0-AAF6 ABC0-ABED ABF0-ABF9; mult,multani:11280-11286 11288 1128A-1128D
    1128F-1129D 1129F-112A9; mymr,myanmar:1000-109F A9E0-A9FE AA60-AA7F 116D0-116E3;
    nagm,nagmundari:1E4D0-1E4F9; nand,nandinagari:119A0-119A7 119AA-119D7 119DA-119E4;
    narb,oldnortharabian:10A80-10A9F; nbat,nabataean:10880-1089E 108A7-108AF; newa:11400-1145B
    1145D-11461; nkoo,nko:7C0-7FA 7FD-7FF; nshu,nushu:16FE1 1B170-1B2FB; ogam,ogham:1680-169C;
    olck,olchiki:1C50-1C7F; orkh,oldturkic:10C00-10C48; orya,oriya:B01-B03 B05-B0C B0F-B10
    B13-B28 B2A-B30 B32-B33 B35-B39 B3C-B44 B47-B48 B4B-B4D B55-B57 B5C-B5D B5F-B63 B66-B77;
    osge,osage:104B0-104D3 104D8-104FB; osma,osmanya:10480-1049D 104A0-104A9;
    ougr,olduyghur:10F70-10F89; palm,palmyrene:10860-1087F; pauc,paucinhau:11AC0-11AF8;
    perm,oldpermic:10350-1037A; phag,phagspa:A840-A877; phli,inscriptionalpahlavi:10B60-10B72
    10B78-10B7F; phlp,psalterpahlavi:10B80-10B91 10B99-10B9C 10BA9-10BAF;
    phnx,phoenician:10900-1091B 1091F; plrd,miao:16F00-16F4A 16F4F-16F87 16F8F-16F9F;
    prti,inscriptionalparthian:10B40-10B55 10B58-10B5F; rjng,rejang:A930-A953 A95F;
    rohg,hanifirohingya:10D00-10D27 10D30-10D39; runr,runic:16A0-16EA 16EE-16F8;
    samr,samaritan:800-82D 830-83E; sarb,oldsoutharabian:10A60-10A7F; saur,saurashtra:A880-A8C5
    A8CE-A8D9; sgnw,signwriting:1D800-1DA8B 1DA9B-1DA9F 1DAA1-1DAAF; shaw,shavian:10450-1047F;
    shrd,sharada:11180-111DF 11B60-11B67; sidd,siddham:11580-115B5 115B8-115DD;
    sind,khudawadi:112B0-112EA 112F0-112F9; sinh,sinhala:D81-D83 D85-D96 D9A-DB1 DB3-DBB DBD
    DC0-DC6 DCA DCF-DD4 DD6 DD8-DDF DE6-DEF DF2-DF4 111E1-111F4; sogd,sogdian:10F30-10F59;
    sogo,oldsogdian:10F00-10F27; sora,sorasompeng:110D0-110E8 110F0-110F9;
    soyo,soyombo:11A50-11AA2; sund,sundanese:1B80-1BBF 1CC0-1CC7; sylo,sylotinagri:A800-A82C;
    syrc,syriac:700-70D 70F-74A 74D-74F 860-86A; tagb,tagbanwa:1760-176C 176E-1770 1772-1773;
    takr,takri:11680-116B9 116C0-116C9; tale,taile:1950-196D 1970-1974; talu,newtailue:1980-19AB
    19B0-19C9 19D0-19DA 19DE-19DF; taml,tamil:B82-B83 B85-B8A B8E-B90 B92-B95 B99-B9A B9C
    B9E-B9F BA3-BA4 BA8-BAA BAE-BB9 BBE-BC2 BC6-BC8 BCA-BCD BD0 BD7 BE6-BFA 11FC0-11FF1 11FFF;
    tang,tangut:16FE0 17000-18AFF 18D00-18D1E 18D80-18DF2; tavt,taiviet:AA80-AAC2 AADB-AADF;
    telu,telugu:C00-C0C C0E-C10 C12-C28 C2A-C39 C3C-C44 C46-C48 C4A-C4D C55-C56 C58-C5A C5C-C5D
    C60-C63 C66-C6F C77-C7F; tfng,tifinagh:2D30-2D67 2D6F-2D70 2D7F; tglg,tagalog:1700-1715
    171F; thaa,thaana:780-7B1; thai:E01-E3A E40-E5B; tibt,tibetan:F00-F47 F49-F6C F71-F97
    F99-FBC FBE-FCC FCE-FD4 FD9-FDA; tirh,tirhuta:11480-114C7 114D0-114D9;
    tnsa,tangsa:16A70-16ABE 16AC0-16AC9; toto:1E290-1E2AE; ugar,ugaritic:10380-1039D 1039F;
    vaii,vai:A500-A62B; vith,vithkuqi:10570-1057A 1057C-1058A 1058C-10592 10594-10595
    10597-105A1 105A3-105B1 105B3-105B9 105BB-105BC; wara,warangciti:118A0-118F2 118FF;
    wcho,wancho:1E2C0-1E2F9 1E2FF; xpeo,oldpersian:103A0-103C3 103C8-103D5;
    xsux,cuneiform:12000-12399 12400-1246E 12470-12474 12480-12543; yezi,yezidi:10E80-10EA9
    10EAB-10EAD 10EB0-10EB1; yiii,yi:A000-A48C A490-A4C6; zanb,zanabazarsquare:11A00-11A47;
    zinh,inherited,qaai:300-36F 485-486 64B-655 670 951-954 1AB0-1ADD 1AE0-1AEB 1CD0-1CD2
    1CD4-1CE0 1CE2-1CE8 1CED 1CF4 1CF8-1CF9 1DC0-1DFF 200C-200D 20D0-20F0 302A-302D 3099-309A
    FE00-FE0F FE20-FE2D 101FD 102E0 1133B 1CF00-1CF2D 1CF30-1CF46 1D167-1D169 1D17B-1D182
    1D185-1D18B 1D1AA-1D1AD E0100-E01EF; zyyy,common:0-40 5B-60 7B-A9 AB-B9 BB-BF D7 F7 2B9-2DF
    2E5-2E9 2EC-2FF 374 37E 385 387 605 60C 61B 61F 640 6DD 8E2 964-965 E3F FD5-FD8 10FB
    16EB-16ED 1735-1736 1802-1803 1805 1CD3 1CE1 1CE9-1CEC 1CEE-1CF3 1CF5-1CF7 1CFA 2000-200B
    200E-2064 2066-2070 2074-207E 2080-208E 20A0-20C1 2100-2125 2127-2129 212C-2131 2133-214D
    214F-215F 2189-218B 2190-2429 2440-244A 2460-27FF 2900-2B73 2B76-2BFF 2E00-2E5D 2FF0-3004
    3006 3008-3020 3030-3037 303C-303F 309B-309C 30A0 30FB-30FC 3190-319F 31C0-31E5 31EF
    3220-325F 327F-32CF 32FF 3358-33FF 4DC0-4DFF A700-A721 A788-A78A A830-A839 A92E A9CF AB5B
    AB6A-AB6B FD3E-FD3F FE10-FE19 FE30-FE52 FE54-FE66 FE68-FE6B FEFF FF01-FF20 FF3B-FF40
    FF5B-FF65 FF70 FF9E-FF9F FFE0-FFE6 FFE8-FFEE FFF9-FFFD 10100-10102 10107-10133 10137-1013F
    10190-1019C 101D0-101FC 102E1-102FB 1BCA0-1BCA3 1CC00-1CCFC 1CD00-1CEB3 1CEBA-1CED0
    1CEE0-1CEF0 1CF50-1CFC3 1D000-1D0F5 1D100-1D126 1D129-1D166 1D16A-1D17A 1D183-1D184
    1D18C-1D1A9 1D1AE-1D1EA 1D2C0-1D2D3 1D2E0-1D2F3 1D300-1D356 1D360-1D378 1D400-1D454
    1D456-1D49C 1D49E-1D49F 1D4A2 1D4A5-1D4A6 1D4A9-1D4AC 1D4AE-1D4B9 1D4BB 1D4BD-1D4C3
    1D4C5-1D505 1D507-1D50A 1D50D-1D514 1D516-1D51C 1D51E-1D539 1D53B-1D53E 1D540-1D544 1D546
    1D54A-1D550 1D552-1D6A5 1D6A8-1D7CB 1D7CE-1D7FF 1EC71-1ECB4 1ED01-1ED3D 1F000-1F02B
    1F030-1F093 1F0A0-1F0AE 1F0B1-1F0BF 1F0C1-1F0CF 1F0D1-1F0F5 1F100-1F1AD 1F1E6-1F1FF
    1F201-1F202 1F210-1F23B 1F240-1F248 1F250-1F251 1F260-1F265 1F300-1F6D8 1F6DC-1F6EC
    1F6F0-1F6FC 1F700-1F7D9 1F7E0-1F7EB 1F7F0 1F800-1F80B 1F810-1F847 1F850-1F859 1F860-1F887
    1F890-1F8AD 1F8B0-1F8BB 1F8C0-1F8C1 1F8D0-1F8D8 1F900-1FA57 1FA60-1FA6D 1FA70-1FA7C
    1FA80-1FA8A 1FA8E-1FAC6 1FAC8 1FACD-1FADC 1FADF-1FAEA 1FAEF-1FAF8 1FB00-1FB92 1FB94-1FBFA
    E0001 E0020-E007F"

/-- Upper-case characters. -/
def uppercaseTable : CharSet := CharSet.ofText
  "41-5A C0-D6 D8-DE 100 102 104 106 108 10A 10C 10E 110 112 114 116 118 11A 11C 11E 120 122
    124 126 128 12A 12C 12E 130 132 134 136 139 13B 13D 13F 141 143 145 147 14A 14C 14E 150 152
    154 156 158 15A 15C 15E 160 162 164 166 168 16A 16C 16E 170 172 174 176 178-179 17B 17D
    181-182 184 186-187 189-18B 18E-191 193-194 196-198 19C-19D 19F-1A0 1A2 1A4 1A6-1A7 1A9 1AC
    1AE-1AF 1B1-1B3 1B5 1B7-1B8 1BC 1C4 1C7 1CA 1CD 1CF 1D1 1D3 1D5 1D7 1D9 1DB 1DE 1E0 1E2 1E4
    1E6 1E8 1EA 1EC 1EE 1F1 1F4 1F6-1F8 1FA 1FC 1FE 200 202 204 206 208 20A 20C 20E 210 212 214
    216 218 21A 21C 21E 220 222 224 226 228 22A 22C 22E 230 232 23A-23B 23D-23E 241 243-246 248
    24A 24C 24E 370 372 376 37F 386 388-38A 38C 38E-38F 391-3A1 3A3-3AB 3CF 3D2-3D4 3D8 3DA 3DC
    3DE 3E0 3E2 3E4 3E6 3E8 3EA 3EC 3EE 3F4 3F7 3F9-3FA 3FD-42F 460 462 464 466 468 46A 46C 46E
    470 472 474 476 478 47A 47C 47E 480 48A 48C 48E 490 492 494 496 498 49A 49C 49E 4A0 4A2 4A4
    4A6 4A8 4AA 4AC 4AE 4B0 4B2 4B4 4B6 4B8 4BA 4BC 4BE 4C0-4C1 4C3 4C5 4C7 4C9 4CB 4CD 4D0 4D2
    4D4 4D6 4D8 4DA 4DC 4DE 4E0 4E2 4E4 4E6 4E8 4EA 4EC 4EE 4F0 4F2 4F4 4F6 4F8 4FA 4FC 4FE 500
    502 504 506 508 50A 50C 50E 510 512 514 516 518 51A 51C 51E 520 522 524 526 528 52A 52C 52E
    531-556 10A0-10C5 10C7 10CD 13A0-13F5 1C89 1C90-1CBA 1CBD-1CBF 1E00 1E02 1E04 1E06 1E08 1E0A
    1E0C 1E0E 1E10 1E12 1E14 1E16 1E18 1E1A 1E1C 1E1E 1E20 1E22 1E24 1E26 1E28 1E2A 1E2C 1E2E
    1E30 1E32 1E34 1E36 1E38 1E3A 1E3C 1E3E 1E40 1E42 1E44 1E46 1E48 1E4A 1E4C 1E4E 1E50 1E52
    1E54 1E56 1E58 1E5A 1E5C 1E5E 1E60 1E62 1E64 1E66 1E68 1E6A 1E6C 1E6E 1E70 1E72 1E74 1E76
    1E78 1E7A 1E7C 1E7E 1E80 1E82 1E84 1E86 1E88 1E8A 1E8C 1E8E 1E90 1E92 1E94 1E9E 1EA0 1EA2
    1EA4 1EA6 1EA8 1EAA 1EAC 1EAE 1EB0 1EB2 1EB4 1EB6 1EB8 1EBA 1EBC 1EBE 1EC0 1EC2 1EC4 1EC6
    1EC8 1ECA 1ECC 1ECE 1ED0 1ED2 1ED4 1ED6 1ED8 1EDA 1EDC 1EDE 1EE0 1EE2 1EE4 1EE6 1EE8 1EEA
    1EEC 1EEE 1EF0 1EF2 1EF4 1EF6 1EF8 1EFA 1EFC 1EFE 1F08-1F0F 1F18-1F1D 1F28-1F2F 1F38-1F3F
    1F48-1F4D 1F59 1F5B 1F5D 1F5F 1F68-1F6F 1FB8-1FBB 1FC8-1FCB 1FD8-1FDB 1FE8-1FEC 1FF8-1FFB
    2102 2107 210B-210D 2110-2112 2115 2119-211D 2124 2126 2128 212A-212D 2130-2133 213E-213F
    2145 2160-216F 2183 24B6-24CF 2C00-2C2F 2C60 2C62-2C64 2C67 2C69 2C6B 2C6D-2C70 2C72 2C75
    2C7E-2C80 2C82 2C84 2C86 2C88 2C8A 2C8C 2C8E 2C90 2C92 2C94 2C96 2C98 2C9A 2C9C 2C9E 2CA0
    2CA2 2CA4 2CA6 2CA8 2CAA 2CAC 2CAE 2CB0 2CB2 2CB4 2CB6 2CB8 2CBA 2CBC 2CBE 2CC0 2CC2 2CC4
    2CC6 2CC8 2CCA 2CCC 2CCE 2CD0 2CD2 2CD4 2CD6 2CD8 2CDA 2CDC 2CDE 2CE0 2CE2 2CEB 2CED 2CF2
    A640 A642 A644 A646 A648 A64A A64C A64E A650 A652 A654 A656 A658 A65A A65C A65E A660 A662
    A664 A666 A668 A66A A66C A680 A682 A684 A686 A688 A68A A68C A68E A690 A692 A694 A696 A698
    A69A A722 A724 A726 A728 A72A A72C A72E A732 A734 A736 A738 A73A A73C A73E A740 A742 A744
    A746 A748 A74A A74C A74E A750 A752 A754 A756 A758 A75A A75C A75E A760 A762 A764 A766 A768
    A76A A76C A76E A779 A77B A77D-A77E A780 A782 A784 A786 A78B A78D A790 A792 A796 A798 A79A
    A79C A79E A7A0 A7A2 A7A4 A7A6 A7A8 A7AA-A7AE A7B0-A7B4 A7B6 A7B8 A7BA A7BC A7BE A7C0 A7C2
    A7C4-A7C7 A7C9 A7CB-A7CC A7CE A7D0 A7D2 A7D4 A7D6 A7D8 A7DA A7DC A7F5 FF21-FF3A 10400-10427
    104B0-104D3 10570-1057A 1057C-1058A 1058C-10592 10594-10595 10C80-10CB2 10D50-10D65
    118A0-118BF 16E40-16E5F 16EA0-16EB8 1D400-1D419 1D434-1D44D 1D468-1D481 1D49C 1D49E-1D49F
    1D4A2 1D4A5-1D4A6 1D4A9-1D4AC 1D4AE-1D4B5 1D4D0-1D4E9 1D504-1D505 1D507-1D50A 1D50D-1D514
    1D516-1D51C 1D538-1D539 1D53B-1D53E 1D540-1D544 1D546 1D54A-1D550 1D56C-1D585 1D5A0-1D5B9
    1D5D4-1D5ED 1D608-1D621 1D63C-1D655 1D670-1D689 1D6A8-1D6C0 1D6E2-1D6FA 1D71C-1D734
    1D756-1D76E 1D790-1D7A8 1D7CA 1E900-1E921 1F130-1F149 1F150-1F169 1F170-1F189"

/-- Lower-case characters. -/
def lowercaseTable : CharSet := CharSet.ofText
  "61-7A AA B5 BA DF-F6 F8-FF 101 103 105 107 109 10B 10D 10F 111 113 115 117 119 11B 11D 11F
    121 123 125 127 129 12B 12D 12F 131 133 135 137-138 13A 13C 13E 140 142 144 146 148-149 14B
    14D 14F 151 153 155 157 159 15B 15D 15F 161 163 165 167 169 16B 16D 16F 171 173 175 177 17A
    17C 17E-180 183 185 188 18C-18D 192 195 199-19B 19E 1A1 1A3 1A5 1A8 1AA-1AB 1AD 1B0 1B4 1B6
    1B9-1BA 1BD-1BF 1C6 1C9 1CC 1CE 1D0 1D2 1D4 1D6 1D8 1DA 1DC-1DD 1DF 1E1 1E3 1E5 1E7 1E9 1EB
    1ED 1EF-1F0 1F3 1F5 1F9 1FB 1FD 1FF 201 203 205 207 209 20B 20D 20F 211 213 215 217 219 21B
    21D 21F 221 223 225 227 229 22B 22D 22F 231 233-239 23C 23F-240 242 247 249 24B 24D 24F-293
    296-2B8 2C0-2C1 2E0-2E4 345 371 373 377 37A-37D 390 3AC-3CE 3D0-3D1 3D5-3D7 3D9 3DB 3DD 3DF
    3E1 3E3 3E5 3E7 3E9 3EB 3ED 3EF-3F3 3F5 3F8 3FB-3FC 430-45F 461 463 465 467 469 46B 46D 46F
    471 473 475 477 479 47B 47D 47F 481 48B 48D 48F 491 493 495 497 499 49B 49D 49F 4A1 4A3 4A5
    4A7 4A9 4AB 4AD 4AF 4B1 4B3 4B5 4B7 4B9 4BB 4BD 4BF 4C2 4C4 4C6 4C8 4CA 4CC 4CE-4CF 4D1 4D3
    4D5 4D7 4D9 4DB 4DD 4DF 4E1 4E3 4E5 4E7 4E9 4EB 4ED 4EF 4F1 4F3 4F5 4F7 4F9 4FB 4FD 4FF 501
    503 505 507 509 50B 50D 50F 511 513 515 517 519 51B 51D 51F 521 523 525 527 529 52B 52D 52F
    560-588 10D0-10FA 10FC-10FF 13F8-13FD 1C80-1C88 1C8A 1D00-1DBF 1E01 1E03 1E05 1E07 1E09 1E0B
    1E0D 1E0F 1E11 1E13 1E15 1E17 1E19 1E1B 1E1D 1E1F 1E21 1E23 1E25 1E27 1E29 1E2B 1E2D 1E2F
    1E31 1E33 1E35 1E37 1E39 1E3B 1E3D 1E3F 1E41 1E43 1E45 1E47 1E49 1E4B 1E4D 1E4F 1E51 1E53
    1E55 1E57 1E59 1E5B 1E5D 1E5F 1E61 1E63 1E65 1E67 1E69 1E6B 1E6D 1E6F 1E71 1E73 1E75 1E77
    1E79 1E7B 1E7D 1E7F 1E81 1E83 1E85 1E87 1E89 1E8B 1E8D 1E8F 1E91 1E93 1E95-1E9D 1E9F 1EA1
    1EA3 1EA5 1EA7 1EA9 1EAB 1EAD 1EAF 1EB1 1EB3 1EB5 1EB7 1EB9 1EBB 1EBD 1EBF 1EC1 1EC3 1EC5
    1EC7 1EC9 1ECB 1ECD 1ECF 1ED1 1ED3 1ED5 1ED7 1ED9 1EDB 1EDD 1EDF 1EE1 1EE3 1EE5 1EE7 1EE9
    1EEB 1EED 1EEF 1EF1 1EF3 1EF5 1EF7 1EF9 1EFB 1EFD 1EFF-1F07 1F10-1F15 1F20-1F27 1F30-1F37
    1F40-1F45 1F50-1F57 1F60-1F67 1F70-1F7D 1F80-1F87 1F90-1F97 1FA0-1FA7 1FB0-1FB4 1FB6-1FB7
    1FBE 1FC2-1FC4 1FC6-1FC7 1FD0-1FD3 1FD6-1FD7 1FE0-1FE7 1FF2-1FF4 1FF6-1FF7 2071 207F
    2090-209C 210A 210E-210F 2113 212F 2134 2139 213C-213D 2146-2149 214E 2170-217F 2184
    24D0-24E9 2C30-2C5F 2C61 2C65-2C66 2C68 2C6A 2C6C 2C71 2C73-2C74 2C76-2C7D 2C81 2C83 2C85
    2C87 2C89 2C8B 2C8D 2C8F 2C91 2C93 2C95 2C97 2C99 2C9B 2C9D 2C9F 2CA1 2CA3 2CA5 2CA7 2CA9
    2CAB 2CAD 2CAF 2CB1 2CB3 2CB5 2CB7 2CB9 2CBB 2CBD 2CBF 2CC1 2CC3 2CC5 2CC7 2CC9 2CCB 2CCD
    2CCF 2CD1 2CD3 2CD5 2CD7 2CD9 2CDB 2CDD 2CDF 2CE1 2CE3-2CE4 2CEC 2CEE 2CF3 2D00-2D25 2D27
    2D2D A641 A643 A645 A647 A649 A64B A64D A64F A651 A653 A655 A657 A659 A65B A65D A65F A661
    A663 A665 A667 A669 A66B A66D A681 A683 A685 A687 A689 A68B A68D A68F A691 A693 A695 A697
    A699 A69B-A69D A723 A725 A727 A729 A72B A72D A72F-A731 A733 A735 A737 A739 A73B A73D A73F
    A741 A743 A745 A747 A749 A74B A74D A74F A751 A753 A755 A757 A759 A75B A75D A75F A761 A763
    A765 A767 A769 A76B A76D A76F-A778 A77A A77C A77F A781 A783 A785 A787 A78C A78E A791
    A793-A795 A797 A799 A79B A79D A79F A7A1 A7A3 A7A5 A7A7 A7A9 A7AF A7B5 A7B7 A7B9 A7BB A7BD
    A7BF A7C1 A7C3 A7C8 A7CA A7CD A7CF A7D1 A7D3 A7D5 A7D7 A7D9 A7DB A7F1-A7F4 A7F6 A7F8-A7FA
    AB30-AB5A AB5C-AB69 AB70-ABBF FB00-FB06 FB13-FB17 FF41-FF5A 10428-1044F 104D8-104FB
    10597-105A1 105A3-105B1 105B3-105B9 105BB-105BC 10780 10783-10785 10787-107B0 107B2-107BA
    10CC0-10CF2 10D70-10D85 118C0-118DF 16E60-16E7F 16EBB-16ED3 1D41A-1D433 1D44E-1D454
    1D456-1D467 1D482-1D49B 1D4B6-1D4B9 1D4BB 1D4BD-1D4C3 1D4C5-1D4CF 1D4EA-1D503 1D51E-1D537
    1D552-1D56B 1D586-1D59F 1D5BA-1D5D3 1D5EE-1D607 1D622-1D63B 1D656-1D66F 1D68A-1D6A5
    1D6C2-1D6DA 1D6DC-1D6E1 1D6FC-1D714 1D716-1D71B 1D736-1D74E 1D750-1D755 1D770-1D788
    1D78A-1D78F 1D7AA-1D7C2 1D7C4-1D7C9 1D7CB 1DF00-1DF09 1DF0B-1DF1E 1DF25-1DF2A 1E030-1E06D
    1E922-1E943"

/-- Reads a group of code points separated by points. -/
def foldGroupOfText (text : List Char) : List Nat := (piecesBy (· == '.') text).map hexValue

/-- Reads groups separated by spaces. -/
def foldGroupsOfText (text : String) : List (List Nat) :=
  (piecesBy isGap text.toList).map foldGroupOfText

/-- The groups of characters that differ only in case. -/
def foldGroups : List (List Nat) := foldGroupsOfText
  "41.61 42.62 43.63 44.64 45.65 46.66 47.67 48.68 49.69 4A.6A 4B.6B.212A 4C.6C 4D.6D 4E.6E
    4F.6F 50.70 51.71 52.72 53.73.17F 54.74 55.75 56.76 57.77 58.78 59.79 5A.7A B5.39C.3BC C0.E0
    C1.E1 C2.E2 C3.E3 C4.E4 C5.E5.212B C6.E6 C7.E7 C8.E8 C9.E9 CA.EA CB.EB CC.EC CD.ED CE.EE
    CF.EF D0.F0 D1.F1 D2.F2 D3.F3 D4.F4 D5.F5 D6.F6 D8.F8 D9.F9 DA.FA DB.FB DC.FC DD.FD DE.FE
    DF.1E9E FF.178 100.101 102.103 104.105 106.107 108.109 10A.10B 10C.10D 10E.10F 110.111
    112.113 114.115 116.117 118.119 11A.11B 11C.11D 11E.11F 120.121 122.123 124.125 126.127
    128.129 12A.12B 12C.12D 12E.12F 132.133 134.135 136.137 139.13A 13B.13C 13D.13E 13F.140
    141.142 143.144 145.146 147.148 14A.14B 14C.14D 14E.14F 150.151 152.153 154.155 156.157
    158.159 15A.15B 15C.15D 15E.15F 160.161 162.163 164.165 166.167 168.169 16A.16B 16C.16D
    16E.16F 170.171 172.173 174.175 176.177 179.17A 17B.17C 17D.17E 180.243 181.253 182.183
    184.185 186.254 187.188 189.256 18A.257 18B.18C 18E.1DD 18F.259 190.25B 191.192 193.260
    194.263 195.1F6 196.269 197.268 198.199 19A.23D 19B.A7DC 19C.26F 19D.272 19E.220 19F.275
    1A0.1A1 1A2.1A3 1A4.1A5 1A6.280 1A7.1A8 1A9.283 1AC.1AD 1AE.288 1AF.1B0 1B1.28A 1B2.28B
    1B3.1B4 1B5.1B6 1B7.292 1B8.1B9 1BC.1BD 1BF.1F7 1C4.1C5.1C6 1C7.1C8.1C9 1CA.1CB.1CC 1CD.1CE
    1CF.1D0 1D1.1D2 1D3.1D4 1D5.1D6 1D7.1D8 1D9.1DA 1DB.1DC 1DE.1DF 1E0.1E1 1E2.1E3 1E4.1E5
    1E6.1E7 1E8.1E9 1EA.1EB 1EC.1ED 1EE.1EF 1F1.1F2.1F3 1F4.1F5 1F8.1F9 1FA.1FB 1FC.1FD 1FE.1FF
    200.201 202.203 204.205 206.207 208.209 20A.20B 20C.20D 20E.20F 210.211 212.213 214.215
    216.217 218.219 21A.21B 21C.21D 21E.21F 222.223 224.225 226.227 228.229 22A.22B 22C.22D
    22E.22F 230.231 232.233 23A.2C65 23B.23C 23E.2C66 23F.2C7E 240.2C7F 241.242 244.289 245.28C
    246.247 248.249 24A.24B 24C.24D 24E.24F 250.2C6F 251.2C6D 252.2C70 25C.A7AB 261.A7AC
    264.A7CB 265.A78D 266.A7AA 26A.A7AE 26B.2C62 26C.A7AD 271.2C6E 27D.2C64 282.A7C5 287.A7B1
    29D.A7B2 29E.A7B0 345.399.3B9.1FBE 370.371 372.373 376.377 37B.3FD 37C.3FE 37D.3FF 37F.3F3
    386.3AC 388.3AD 389.3AE 38A.3AF 38C.3CC 38E.3CD 38F.3CE 391.3B1 392.3B2.3D0 393.3B3 394.3B4
    395.3B5.3F5 396.3B6 397.3B7 398.3B8.3D1.3F4 39A.3BA.3F0 39B.3BB 39D.3BD 39E.3BE 39F.3BF
    3A0.3C0.3D6 3A1.3C1.3F1 3A3.3C2.3C3 3A4.3C4 3A5.3C5 3A6.3C6.3D5 3A7.3C7 3A8.3C8 3A9.3C9.2126
    3AA.3CA 3AB.3CB 3CF.3D7 3D8.3D9 3DA.3DB 3DC.3DD 3DE.3DF 3E0.3E1 3E2.3E3 3E4.3E5 3E6.3E7
    3E8.3E9 3EA.3EB 3EC.3ED 3EE.3EF 3F2.3F9 3F7.3F8 3FA.3FB 400.450 401.451 402.452 403.453
    404.454 405.455 406.456 407.457 408.458 409.459 40A.45A 40B.45B 40C.45C 40D.45D 40E.45E
    40F.45F 410.430 411.431 412.432.1C80 413.433 414.434.1C81 415.435 416.436 417.437 418.438
    419.439 41A.43A 41B.43B 41C.43C 41D.43D 41E.43E.1C82 41F.43F 420.440 421.441.1C83
    422.442.1C84.1C85 423.443 424.444 425.445 426.446 427.447 428.448 429.449 42A.44A.1C86
    42B.44B 42C.44C 42D.44D 42E.44E 42F.44F 460.461 462.463.1C87 464.465 466.467 468.469 46A.46B
    46C.46D 46E.46F 470.471 472.473 474.475 476.477 478.479 47A.47B 47C.47D 47E.47F 480.481
    48A.48B 48C.48D 48E.48F 490.491 492.493 494.495 496.497 498.499 49A.49B 49C.49D 49E.49F
    4A0.4A1 4A2.4A3 4A4.4A5 4A6.4A7 4A8.4A9 4AA.4AB 4AC.4AD 4AE.4AF 4B0.4B1 4B2.4B3 4B4.4B5
    4B6.4B7 4B8.4B9 4BA.4BB 4BC.4BD 4BE.4BF 4C0.4CF 4C1.4C2 4C3.4C4 4C5.4C6 4C7.4C8 4C9.4CA
    4CB.4CC 4CD.4CE 4D0.4D1 4D2.4D3 4D4.4D5 4D6.4D7 4D8.4D9 4DA.4DB 4DC.4DD 4DE.4DF 4E0.4E1
    4E2.4E3 4E4.4E5 4E6.4E7 4E8.4E9 4EA.4EB 4EC.4ED 4EE.4EF 4F0.4F1 4F2.4F3 4F4.4F5 4F6.4F7
    4F8.4F9 4FA.4FB 4FC.4FD 4FE.4FF 500.501 502.503 504.505 506.507 508.509 50A.50B 50C.50D
    50E.50F 510.511 512.513 514.515 516.517 518.519 51A.51B 51C.51D 51E.51F 520.521 522.523
    524.525 526.527 528.529 52A.52B 52C.52D 52E.52F 531.561 532.562 533.563 534.564 535.565
    536.566 537.567 538.568 539.569 53A.56A 53B.56B 53C.56C 53D.56D 53E.56E 53F.56F 540.570
    541.571 542.572 543.573 544.574 545.575 546.576 547.577 548.578 549.579 54A.57A 54B.57B
    54C.57C 54D.57D 54E.57E 54F.57F 550.580 551.581 552.582 553.583 554.584 555.585 556.586
    10A0.2D00 10A1.2D01 10A2.2D02 10A3.2D03 10A4.2D04 10A5.2D05 10A6.2D06 10A7.2D07 10A8.2D08
    10A9.2D09 10AA.2D0A 10AB.2D0B 10AC.2D0C 10AD.2D0D 10AE.2D0E 10AF.2D0F 10B0.2D10 10B1.2D11
    10B2.2D12 10B3.2D13 10B4.2D14 10B5.2D15 10B6.2D16 10B7.2D17 10B8.2D18 10B9.2D19 10BA.2D1A
    10BB.2D1B 10BC.2D1C 10BD.2D1D 10BE.2D1E 10BF.2D1F 10C0.2D20 10C1.2D21 10C2.2D22 10C3.2D23
    10C4.2D24 10C5.2D25 10C7.2D27 10CD.2D2D 10D0.1C90 10D1.1C91 10D2.1C92 10D3.1C93 10D4.1C94
    10D5.1C95 10D6.1C96 10D7.1C97 10D8.1C98 10D9.1C99 10DA.1C9A 10DB.1C9B 10DC.1C9C 10DD.1C9D
    10DE.1C9E 10DF.1C9F 10E0.1CA0 10E1.1CA1 10E2.1CA2 10E3.1CA3 10E4.1CA4 10E5.1CA5 10E6.1CA6
    10E7.1CA7 10E8.1CA8 10E9.1CA9 10EA.1CAA 10EB.1CAB 10EC.1CAC 10ED.1CAD 10EE.1CAE 10EF.1CAF
    10F0.1CB0 10F1.1CB1 10F2.1CB2 10F3.1CB3 10F4.1CB4 10F5.1CB5 10F6.1CB6 10F7.1CB7 10F8.1CB8
    10F9.1CB9 10FA.1CBA 10FD.1CBD 10FE.1CBE 10FF.1CBF 13A0.AB70 13A1.AB71 13A2.AB72 13A3.AB73
    13A4.AB74 13A5.AB75 13A6.AB76 13A7.AB77 13A8.AB78 13A9.AB79 13AA.AB7A 13AB.AB7B 13AC.AB7C
    13AD.AB7D 13AE.AB7E 13AF.AB7F 13B0.AB80 13B1.AB81 13B2.AB82 13B3.AB83 13B4.AB84 13B5.AB85
    13B6.AB86 13B7.AB87 13B8.AB88 13B9.AB89 13BA.AB8A 13BB.AB8B 13BC.AB8C 13BD.AB8D 13BE.AB8E
    13BF.AB8F 13C0.AB90 13C1.AB91 13C2.AB92 13C3.AB93 13C4.AB94 13C5.AB95 13C6.AB96 13C7.AB97
    13C8.AB98 13C9.AB99 13CA.AB9A 13CB.AB9B 13CC.AB9C 13CD.AB9D 13CE.AB9E 13CF.AB9F 13D0.ABA0
    13D1.ABA1 13D2.ABA2 13D3.ABA3 13D4.ABA4 13D5.ABA5 13D6.ABA6 13D7.ABA7 13D8.ABA8 13D9.ABA9
    13DA.ABAA 13DB.ABAB 13DC.ABAC 13DD.ABAD 13DE.ABAE 13DF.ABAF 13E0.ABB0 13E1.ABB1 13E2.ABB2
    13E3.ABB3 13E4.ABB4 13E5.ABB5 13E6.ABB6 13E7.ABB7 13E8.ABB8 13E9.ABB9 13EA.ABBA 13EB.ABBB
    13EC.ABBC 13ED.ABBD 13EE.ABBE 13EF.ABBF 13F0.13F8 13F1.13F9 13F2.13FA 13F3.13FB 13F4.13FC
    13F5.13FD 1C88.A64A.A64B 1C89.1C8A 1D79.A77D 1D7D.2C63 1D8E.A7C6 1E00.1E01 1E02.1E03
    1E04.1E05 1E06.1E07 1E08.1E09 1E0A.1E0B 1E0C.1E0D 1E0E.1E0F 1E10.1E11 1E12.1E13 1E14.1E15
    1E16.1E17 1E18.1E19 1E1A.1E1B 1E1C.1E1D 1E1E.1E1F 1E20.1E21 1E22.1E23 1E24.1E25 1E26.1E27
    1E28.1E29 1E2A.1E2B 1E2C.1E2D 1E2E.1E2F 1E30.1E31 1E32.1E33 1E34.1E35 1E36.1E37 1E38.1E39
    1E3A.1E3B 1E3C.1E3D 1E3E.1E3F 1E40.1E41 1E42.1E43 1E44.1E45 1E46.1E47 1E48.1E49 1E4A.1E4B
    1E4C.1E4D 1E4E.1E4F 1E50.1E51 1E52.1E53 1E54.1E55 1E56.1E57 1E58.1E59 1E5A.1E5B 1E5C.1E5D
    1E5E.1E5F 1E60.1E61.1E9B 1E62.1E63 1E64.1E65 1E66.1E67 1E68.1E69 1E6A.1E6B 1E6C.1E6D
    1E6E.1E6F 1E70.1E71 1E72.1E73 1E74.1E75 1E76.1E77 1E78.1E79 1E7A.1E7B 1E7C.1E7D 1E7E.1E7F
    1E80.1E81 1E82.1E83 1E84.1E85 1E86.1E87 1E88.1E89 1E8A.1E8B 1E8C.1E8D 1E8E.1E8F 1E90.1E91
    1E92.1E93 1E94.1E95 1EA0.1EA1 1EA2.1EA3 1EA4.1EA5 1EA6.1EA7 1EA8.1EA9 1EAA.1EAB 1EAC.1EAD
    1EAE.1EAF 1EB0.1EB1 1EB2.1EB3 1EB4.1EB5 1EB6.1EB7 1EB8.1EB9 1EBA.1EBB 1EBC.1EBD 1EBE.1EBF
    1EC0.1EC1 1EC2.1EC3 1EC4.1EC5 1EC6.1EC7 1EC8.1EC9 1ECA.1ECB 1ECC.1ECD 1ECE.1ECF 1ED0.1ED1
    1ED2.1ED3 1ED4.1ED5 1ED6.1ED7 1ED8.1ED9 1EDA.1EDB 1EDC.1EDD 1EDE.1EDF 1EE0.1EE1 1EE2.1EE3
    1EE4.1EE5 1EE6.1EE7 1EE8.1EE9 1EEA.1EEB 1EEC.1EED 1EEE.1EEF 1EF0.1EF1 1EF2.1EF3 1EF4.1EF5
    1EF6.1EF7 1EF8.1EF9 1EFA.1EFB 1EFC.1EFD 1EFE.1EFF 1F00.1F08 1F01.1F09 1F02.1F0A 1F03.1F0B
    1F04.1F0C 1F05.1F0D 1F06.1F0E 1F07.1F0F 1F10.1F18 1F11.1F19 1F12.1F1A 1F13.1F1B 1F14.1F1C
    1F15.1F1D 1F20.1F28 1F21.1F29 1F22.1F2A 1F23.1F2B 1F24.1F2C 1F25.1F2D 1F26.1F2E 1F27.1F2F
    1F30.1F38 1F31.1F39 1F32.1F3A 1F33.1F3B 1F34.1F3C 1F35.1F3D 1F36.1F3E 1F37.1F3F 1F40.1F48
    1F41.1F49 1F42.1F4A 1F43.1F4B 1F44.1F4C 1F45.1F4D 1F51.1F59 1F53.1F5B 1F55.1F5D 1F57.1F5F
    1F60.1F68 1F61.1F69 1F62.1F6A 1F63.1F6B 1F64.1F6C 1F65.1F6D 1F66.1F6E 1F67.1F6F 1F70.1FBA
    1F71.1FBB 1F72.1FC8 1F73.1FC9 1F74.1FCA 1F75.1FCB 1F76.1FDA 1F77.1FDB 1F78.1FF8 1F79.1FF9
    1F7A.1FEA 1F7B.1FEB 1F7C.1FFA 1F7D.1FFB 1F80.1F88 1F81.1F89 1F82.1F8A 1F83.1F8B 1F84.1F8C
    1F85.1F8D 1F86.1F8E 1F87.1F8F 1F90.1F98 1F91.1F99 1F92.1F9A 1F93.1F9B 1F94.1F9C 1F95.1F9D
    1F96.1F9E 1F97.1F9F 1FA0.1FA8 1FA1.1FA9 1FA2.1FAA 1FA3.1FAB 1FA4.1FAC 1FA5.1FAD 1FA6.1FAE
    1FA7.1FAF 1FB0.1FB8 1FB1.1FB9 1FB3.1FBC 1FC3.1FCC 1FD0.1FD8 1FD1.1FD9 1FE0.1FE8 1FE1.1FE9
    1FE5.1FEC 1FF3.1FFC 2132.214E 2160.2170 2161.2171 2162.2172 2163.2173 2164.2174 2165.2175
    2166.2176 2167.2177 2168.2178 2169.2179 216A.217A 216B.217B 216C.217C 216D.217D 216E.217E
    216F.217F 2183.2184 24B6.24D0 24B7.24D1 24B8.24D2 24B9.24D3 24BA.24D4 24BB.24D5 24BC.24D6
    24BD.24D7 24BE.24D8 24BF.24D9 24C0.24DA 24C1.24DB 24C2.24DC 24C3.24DD 24C4.24DE 24C5.24DF
    24C6.24E0 24C7.24E1 24C8.24E2 24C9.24E3 24CA.24E4 24CB.24E5 24CC.24E6 24CD.24E7 24CE.24E8
    24CF.24E9 2C00.2C30 2C01.2C31 2C02.2C32 2C03.2C33 2C04.2C34 2C05.2C35 2C06.2C36 2C07.2C37
    2C08.2C38 2C09.2C39 2C0A.2C3A 2C0B.2C3B 2C0C.2C3C 2C0D.2C3D 2C0E.2C3E 2C0F.2C3F 2C10.2C40
    2C11.2C41 2C12.2C42 2C13.2C43 2C14.2C44 2C15.2C45 2C16.2C46 2C17.2C47 2C18.2C48 2C19.2C49
    2C1A.2C4A 2C1B.2C4B 2C1C.2C4C 2C1D.2C4D 2C1E.2C4E 2C1F.2C4F 2C20.2C50 2C21.2C51 2C22.2C52
    2C23.2C53 2C24.2C54 2C25.2C55 2C26.2C56 2C27.2C57 2C28.2C58 2C29.2C59 2C2A.2C5A 2C2B.2C5B
    2C2C.2C5C 2C2D.2C5D 2C2E.2C5E 2C2F.2C5F 2C60.2C61 2C67.2C68 2C69.2C6A 2C6B.2C6C 2C72.2C73
    2C75.2C76 2C80.2C81 2C82.2C83 2C84.2C85 2C86.2C87 2C88.2C89 2C8A.2C8B 2C8C.2C8D 2C8E.2C8F
    2C90.2C91 2C92.2C93 2C94.2C95 2C96.2C97 2C98.2C99 2C9A.2C9B 2C9C.2C9D 2C9E.2C9F 2CA0.2CA1
    2CA2.2CA3 2CA4.2CA5 2CA6.2CA7 2CA8.2CA9 2CAA.2CAB 2CAC.2CAD 2CAE.2CAF 2CB0.2CB1 2CB2.2CB3
    2CB4.2CB5 2CB6.2CB7 2CB8.2CB9 2CBA.2CBB 2CBC.2CBD 2CBE.2CBF 2CC0.2CC1 2CC2.2CC3 2CC4.2CC5
    2CC6.2CC7 2CC8.2CC9 2CCA.2CCB 2CCC.2CCD 2CCE.2CCF 2CD0.2CD1 2CD2.2CD3 2CD4.2CD5 2CD6.2CD7
    2CD8.2CD9 2CDA.2CDB 2CDC.2CDD 2CDE.2CDF 2CE0.2CE1 2CE2.2CE3 2CEB.2CEC 2CED.2CEE 2CF2.2CF3
    A640.A641 A642.A643 A644.A645 A646.A647 A648.A649 A64C.A64D A64E.A64F A650.A651 A652.A653
    A654.A655 A656.A657 A658.A659 A65A.A65B A65C.A65D A65E.A65F A660.A661 A662.A663 A664.A665
    A666.A667 A668.A669 A66A.A66B A66C.A66D A680.A681 A682.A683 A684.A685 A686.A687 A688.A689
    A68A.A68B A68C.A68D A68E.A68F A690.A691 A692.A693 A694.A695 A696.A697 A698.A699 A69A.A69B
    A722.A723 A724.A725 A726.A727 A728.A729 A72A.A72B A72C.A72D A72E.A72F A732.A733 A734.A735
    A736.A737 A738.A739 A73A.A73B A73C.A73D A73E.A73F A740.A741 A742.A743 A744.A745 A746.A747
    A748.A749 A74A.A74B A74C.A74D A74E.A74F A750.A751 A752.A753 A754.A755 A756.A757 A758.A759
    A75A.A75B A75C.A75D A75E.A75F A760.A761 A762.A763 A764.A765 A766.A767 A768.A769 A76A.A76B
    A76C.A76D A76E.A76F A779.A77A A77B.A77C A77E.A77F A780.A781 A782.A783 A784.A785 A786.A787
    A78B.A78C A790.A791 A792.A793 A794.A7C4 A796.A797 A798.A799 A79A.A79B A79C.A79D A79E.A79F
    A7A0.A7A1 A7A2.A7A3 A7A4.A7A5 A7A6.A7A7 A7A8.A7A9 A7B3.AB53 A7B4.A7B5 A7B6.A7B7 A7B8.A7B9
    A7BA.A7BB A7BC.A7BD A7BE.A7BF A7C0.A7C1 A7C2.A7C3 A7C7.A7C8 A7C9.A7CA A7CC.A7CD A7CE.A7CF
    A7D0.A7D1 A7D2.A7D3 A7D4.A7D5 A7D6.A7D7 A7D8.A7D9 A7DA.A7DB A7F5.A7F6 FF21.FF41 FF22.FF42
    FF23.FF43 FF24.FF44 FF25.FF45 FF26.FF46 FF27.FF47 FF28.FF48 FF29.FF49 FF2A.FF4A FF2B.FF4B
    FF2C.FF4C FF2D.FF4D FF2E.FF4E FF2F.FF4F FF30.FF50 FF31.FF51 FF32.FF52 FF33.FF53 FF34.FF54
    FF35.FF55 FF36.FF56 FF37.FF57 FF38.FF58 FF39.FF59 FF3A.FF5A 10400.10428 10401.10429
    10402.1042A 10403.1042B 10404.1042C 10405.1042D 10406.1042E 10407.1042F 10408.10430
    10409.10431 1040A.10432 1040B.10433 1040C.10434 1040D.10435 1040E.10436 1040F.10437
    10410.10438 10411.10439 10412.1043A 10413.1043B 10414.1043C 10415.1043D 10416.1043E
    10417.1043F 10418.10440 10419.10441 1041A.10442 1041B.10443 1041C.10444 1041D.10445
    1041E.10446 1041F.10447 10420.10448 10421.10449 10422.1044A 10423.1044B 10424.1044C
    10425.1044D 10426.1044E 10427.1044F 104B0.104D8 104B1.104D9 104B2.104DA 104B3.104DB
    104B4.104DC 104B5.104DD 104B6.104DE 104B7.104DF 104B8.104E0 104B9.104E1 104BA.104E2
    104BB.104E3 104BC.104E4 104BD.104E5 104BE.104E6 104BF.104E7 104C0.104E8 104C1.104E9
    104C2.104EA 104C3.104EB 104C4.104EC 104C5.104ED 104C6.104EE 104C7.104EF 104C8.104F0
    104C9.104F1 104CA.104F2 104CB.104F3 104CC.104F4 104CD.104F5 104CE.104F6 104CF.104F7
    104D0.104F8 104D1.104F9 104D2.104FA 104D3.104FB 10570.10597 10571.10598 10572.10599
    10573.1059A 10574.1059B 10575.1059C 10576.1059D 10577.1059E 10578.1059F 10579.105A0
    1057A.105A1 1057C.105A3 1057D.105A4 1057E.105A5 1057F.105A6 10580.105A7 10581.105A8
    10582.105A9 10583.105AA 10584.105AB 10585.105AC 10586.105AD 10587.105AE 10588.105AF
    10589.105B0 1058A.105B1 1058C.105B3 1058D.105B4 1058E.105B5 1058F.105B6 10590.105B7
    10591.105B8 10592.105B9 10594.105BB 10595.105BC 10C80.10CC0 10C81.10CC1 10C82.10CC2
    10C83.10CC3 10C84.10CC4 10C85.10CC5 10C86.10CC6 10C87.10CC7 10C88.10CC8 10C89.10CC9
    10C8A.10CCA 10C8B.10CCB 10C8C.10CCC 10C8D.10CCD 10C8E.10CCE 10C8F.10CCF 10C90.10CD0
    10C91.10CD1 10C92.10CD2 10C93.10CD3 10C94.10CD4 10C95.10CD5 10C96.10CD6 10C97.10CD7
    10C98.10CD8 10C99.10CD9 10C9A.10CDA 10C9B.10CDB 10C9C.10CDC 10C9D.10CDD 10C9E.10CDE
    10C9F.10CDF 10CA0.10CE0 10CA1.10CE1 10CA2.10CE2 10CA3.10CE3 10CA4.10CE4 10CA5.10CE5
    10CA6.10CE6 10CA7.10CE7 10CA8.10CE8 10CA9.10CE9 10CAA.10CEA 10CAB.10CEB 10CAC.10CEC
    10CAD.10CED 10CAE.10CEE 10CAF.10CEF 10CB0.10CF0 10CB1.10CF1 10CB2.10CF2 10D50.10D70
    10D51.10D71 10D52.10D72 10D53.10D73 10D54.10D74 10D55.10D75 10D56.10D76 10D57.10D77
    10D58.10D78 10D59.10D79 10D5A.10D7A 10D5B.10D7B 10D5C.10D7C 10D5D.10D7D 10D5E.10D7E
    10D5F.10D7F 10D60.10D80 10D61.10D81 10D62.10D82 10D63.10D83 10D64.10D84 10D65.10D85
    118A0.118C0 118A1.118C1 118A2.118C2 118A3.118C3 118A4.118C4 118A5.118C5 118A6.118C6
    118A7.118C7 118A8.118C8 118A9.118C9 118AA.118CA 118AB.118CB 118AC.118CC 118AD.118CD
    118AE.118CE 118AF.118CF 118B0.118D0 118B1.118D1 118B2.118D2 118B3.118D3 118B4.118D4
    118B5.118D5 118B6.118D6 118B7.118D7 118B8.118D8 118B9.118D9 118BA.118DA 118BB.118DB
    118BC.118DC 118BD.118DD 118BE.118DE 118BF.118DF 16E40.16E60 16E41.16E61 16E42.16E62
    16E43.16E63 16E44.16E64 16E45.16E65 16E46.16E66 16E47.16E67 16E48.16E68 16E49.16E69
    16E4A.16E6A 16E4B.16E6B 16E4C.16E6C 16E4D.16E6D 16E4E.16E6E 16E4F.16E6F 16E50.16E70
    16E51.16E71 16E52.16E72 16E53.16E73 16E54.16E74 16E55.16E75 16E56.16E76 16E57.16E77
    16E58.16E78 16E59.16E79 16E5A.16E7A 16E5B.16E7B 16E5C.16E7C 16E5D.16E7D 16E5E.16E7E
    16E5F.16E7F 16EA0.16EBB 16EA1.16EBC 16EA2.16EBD 16EA3.16EBE 16EA4.16EBF 16EA5.16EC0
    16EA6.16EC1 16EA7.16EC2 16EA8.16EC3 16EA9.16EC4 16EAA.16EC5 16EAB.16EC6 16EAC.16EC7
    16EAD.16EC8 16EAE.16EC9 16EAF.16ECA 16EB0.16ECB 16EB1.16ECC 16EB2.16ECD 16EB3.16ECE
    16EB4.16ECF 16EB5.16ED0 16EB6.16ED1 16EB7.16ED2 16EB8.16ED3 1E900.1E922 1E901.1E923
    1E902.1E924 1E903.1E925 1E904.1E926 1E905.1E927 1E906.1E928 1E907.1E929 1E908.1E92A
    1E909.1E92B 1E90A.1E92C 1E90B.1E92D 1E90C.1E92E 1E90D.1E92F 1E90E.1E930 1E90F.1E931
    1E910.1E932 1E911.1E933 1E912.1E934 1E913.1E935 1E914.1E936 1E915.1E937 1E916.1E938
    1E917.1E939 1E918.1E93A 1E919.1E93B 1E91A.1E93C 1E91B.1E93D 1E91C.1E93E 1E91D.1E93F
    1E91E.1E940 1E91F.1E941 1E920.1E942 1E921.1E943"

end DocumentDb.Text

/-! # Character widths

Characters beyond Latin-1's controls that do not take one column: marks and other characters that
are not shown take none, the wide characters of East Asian scripts and pictographs take two.
Numbers are in base sixteen.
-/

namespace FleetWatch.Text

def charWidthText : String :=
"AD:0 300-36F:0 483-489:0 591-5BD:0 5BF:0 5C1-5C2:0 5C4-5C5:0 5C7:0 605:0 610-61A:0 61C:0 64B-65F:0
670:0 6D6-6DC:0 6DF-6E4:0 6E7-6E8:0 6EA-6ED:0 70F:0 711:0 730-74A:0 7A6-7B0:0 7EB-7F3:0 7FD:0
816-819:0 81B-823:0 825-827:0 829-82D:0 859-85B:0 890-891:0 898-89F:0 8CA-902:0 93A:0 93C:0
941-948:0 94D:0 951-957:0 962-963:0 981:0 9BC:0 9BE:0 9C1-9C4:0 9CD:0 9D7:0 9E2-9E3:0 9FE:0
A01-A02:0 A3C:0 A41-A42:0 A47-A48:0 A4B-A4D:0 A51:0 A70-A71:0 A75:0 A81-A82:0 ABC:0 AC1-AC5:0
AC7-AC8:0 ACD:0 AE2-AE3:0 AFA-AFF:0 B01:0 B3C:0 B3E-B3F:0 B41-B44:0 B4D:0 B55-B57:0 B62-B63:0
B82:0 BBE:0 BC0:0 BCD:0 BD7:0 C00:0 C04:0 C3C:0 C3E-C40:0 C46-C48:0 C4A-C4D:0 C55-C56:0 C62-C63:0
C81:0 CBC:0 CBF-CC0:0 CC2:0 CC6-CC8:0 CCA-CCD:0 CD5-CD6:0 CE2-CE3:0 D00-D01:0 D3B-D3C:0 D3E:0
D41-D44:0 D4D-D4E:0 D57:0 D62-D63:0 D81:0 DCA:0 DCF:0 DD2-DD4:0 DD6:0 DDF:0 E31:0 E34-E3A:0
E47-E4E:0 EB1:0 EB4-EBC:0 EC8-ECE:0 F18-F19:0 F35:0 F37:0 F39:0 F71-F7E:0 F80-F84:0 F86-F87:0
F8D-F97:0 F99-FBC:0 FC6:0 102D-1030:0 1032-1037:0 1039-103A:0 103D-103E:0 1058-1059:0 105E-1060:0
1071-1074:0 1082:0 1085-1086:0 108D:0 109D:0 1100-115F:2 1160-11FF:0 135D-135F:0 1712-1714:0
1732-1733:0 1752-1753:0 1772-1773:0 17A4:2 17B4-17B5:0 17B7-17BD:0 17C6:0 17C9-17D3:0 17D8:3
17DD:0 180B-180F:0 1885-1886:0 18A9:0 1920-1922:0 1927-1928:0 1932:0 1939-193B:0 1A17-1A18:0
1A1B:0 1A56:0 1A58-1A5E:0 1A60:0 1A62:0 1A65-1A6C:0 1A73-1A7C:0 1A7F:0 1AB0-1ACE:0 1B00-1B03:0
1B34-1B3D:0 1B42-1B43:0 1B6B-1B73:0 1B80-1B81:0 1BA2-1BA5:0 1BA8-1BA9:0 1BAB-1BAD:0 1BE6:0
1BE8-1BE9:0 1BED:0 1BEF-1BF1:0 1C2C-1C33:0 1C36-1C37:0 1CD0-1CD2:0 1CD4-1CE0:0 1CE2-1CE8:0 1CED:0
1CF4:0 1CF8-1CF9:0 1DC0-1DFF:0 200B-200F:0 202A-202E:0 2060-206F:0 20D0-20F0:0 231A-231B:2
2329-232A:2 23E9-23EC:2 23F0:2 23F3:2 25FD-25FE:2 2614-2615:2 2648-2653:2 267F:2 2693:2 26A1:2
26AA-26AB:2 26BD-26BE:2 26C4-26C5:2 26CE:2 26D4:2 26EA:2 26F2-26F3:2 26F5:2 26FA:2 26FD:2 2705:2
270A-270B:2 2728:2 274C:2 274E:2 2753-2755:2 2757:2 2795-2797:2 27B0:2 27BF:2 2B1B-2B1C:2 2B50:2
2B55:2 2CEF-2CF1:0 2DE0-2DFF:0 2E80-2E99:2 2E9B-2EF3:2 2F00-2FD5:2 2FF0-3029:2 302A-302F:0
3030-303E:2 3041-3096:2 3099-309A:0 309B-30FF:2 3105-312F:2 3131-3163:2 3164:0 3165-318E:2
3190-31E3:2 31EF-321E:2 3220-3247:2 3250-4DBF:2 4E00-A48C:2 A490-A4C6:2 A66F-A672:0 A674-A67D:0
A69E-A69F:0 A6F0-A6F1:0 A802:0 A806:0 A80B:0 A825-A826:0 A82C:0 A8C4-A8C5:0 A8E0-A8F1:0 A8FA:0
A8FF:0 A926-A92D:0 A947-A951:0 A960-A97C:2 A980-A982:0 A9B3:0 A9B6-A9B9:0 A9BC-A9BD:0 A9E5:0
AA29-AA2E:0 AA31-AA32:0 AA35-AA36:0 AA43:0 AA4C:0 AA7C:0 AAB0:0 AAB2-AAB4:0 AAB7-AAB8:0 AABE-
AABF:0 AAC1:0 AAEC-AAED:0 AAF6:0 ABE5:0 ABE8:0 ABED:0 AC00-D7A3:2 D7B0-D7C6:0 D7CB-D7FB:0
F900-FAFF:2 FB1E:0 FE00-FE0F:0 FE10-FE19:2 FE20-FE2F:0 FE30-FE52:2 FE54-FE66:2 FE68-FE6B:2 FEFF:0
FF01-FF60:2 FF9E-FFA0:0 FFE0-FFE6:2 FFF0-FFF8:0 101FD:0 102E0:0 10376-1037A:0 10A01-10A03:0
10A05-10A06:0 10A0C-10A0F:0 10A38-10A3A:0 10A3F:0 10AE5-10AE6:0 10D24-10D27:0 10EAB-10EAC:0
10EFD-10EFF:0 10F46-10F50:0 10F82-10F85:0 11001:0 11038-11046:0 11070:0 11073-11074:0
1107F-11081:0 110B3-110B6:0 110B9-110BA:0 110C2:0 11100-11102:0 11127-1112B:0 1112D-11134:0
11173:0 11180-11181:0 111B6-111BE:0 111C2-111C3:0 111C9-111CC:0 111CF:0 1122F-11231:0 11234:0
11236-11237:0 1123E:0 11241:0 112DF:0 112E3-112EA:0 11300-11301:0 1133B-1133C:0 1133E:0 11340:0
11357:0 11366-1136C:0 11370-11374:0 11438-1143F:0 11442-11444:0 11446:0 1145E:0 114B0:0
114B3-114B8:0 114BA:0 114BD:0 114BF-114C0:0 114C2-114C3:0 115AF:0 115B2-115B5:0 115BC-115BD:0
115BF-115C0:0 115DC-115DD:0 11633-1163A:0 1163D:0 1163F-11640:0 116AB:0 116AD:0 116B0-116B5:0
116B7:0 1171D-1171F:0 11722-11725:0 11727-1172B:0 1182F-11837:0 11839-1183A:0 11930:0
1193B-1193C:0 1193E-1193F:0 11941:0 11943:0 119D4-119D7:0 119DA-119DB:0 119E0:0 11A01-11A0A:0
11A33-11A38:0 11A3A-11A3E:0 11A47:0 11A51-11A56:0 11A59-11A5B:0 11A84-11A96:0 11A98-11A99:0
11C30-11C36:0 11C38-11C3D:0 11C3F:0 11C92-11CA7:0 11CAA-11CB0:0 11CB2-11CB3:0 11CB5-11CB6:0
11D31-11D36:0 11D3A:0 11D3C-11D3D:0 11D3F-11D47:0 11D90-11D91:0 11D95:0 11D97:0 11EF3-11EF4:0
11F00-11F02:0 11F36-11F3A:0 11F40:0 11F42:0 13440:0 13447-13455:0 16AF0-16AF4:0 16B30-16B36:0
16F4F:0 16F8F-16F92:0 16FE0-16FE3:2 16FE4:0 16FF0-16FF1:2 17000-187F7:2 18800-18CD5:2
18D00-18D08:2 1AFF0-1AFF3:2 1AFF5-1AFFB:2 1AFFD-1AFFE:2 1B000-1B122:2 1B132:2 1B150-1B152:2
1B155:2 1B164-1B167:2 1B170-1B2FB:2 1BC9D-1BC9E:0 1BCA0-1BCA3:0 1CF00-1CF2D:0 1CF30-1CF46:0
1D165:0 1D167-1D169:0 1D16E-1D182:0 1D185-1D18B:0 1D1AA-1D1AD:0 1D242-1D244:0 1DA00-1DA36:0
1DA3B-1DA6C:0 1DA75:0 1DA84:0 1DA9B-1DA9F:0 1DAA1-1DAAF:0 1E000-1E006:0 1E008-1E018:0
1E01B-1E021:0 1E023-1E024:0 1E026-1E02A:0 1E08F:0 1E130-1E136:0 1E2AE:0 1E2EC-1E2EF:0
1E4EC-1E4EF:0 1E8D0-1E8D6:0 1E944-1E94A:0 1F004:2 1F0CF:2 1F18E:2 1F191-1F19A:2 1F200-1F202:2
1F210-1F23B:2 1F240-1F248:2 1F250-1F251:2 1F260-1F265:2 1F300-1F320:2 1F32D-1F335:2 1F337-1F37C:2
1F37E-1F393:2 1F3A0-1F3CA:2 1F3CF-1F3D3:2 1F3E0-1F3F0:2 1F3F4:2 1F3F8-1F43E:2 1F440:2
1F442-1F4FC:2 1F4FF-1F53D:2 1F54B-1F54E:2 1F550-1F567:2 1F57A:2 1F595-1F596:2 1F5A4:2
1F5FB-1F64F:2 1F680-1F6C5:2 1F6CC:2 1F6D0-1F6D2:2 1F6D5-1F6D7:2 1F6DC-1F6DF:2 1F6EB-1F6EC:2
1F6F4-1F6FC:2 1F7E0-1F7EB:2 1F7F0:2 1F90C-1F93A:2 1F93C-1F945:2 1F947-1F9FF:2 1FA70-1FA7C:2
1FA80-1FA88:2 1FA90-1FABD:2 1FABF-1FAC5:2 1FACE-1FADB:2 1FAE0-1FAE8:2 1FAF0-1FAF8:2 20000-2FFFD:2
30000-3FFFD:2 E0000-E0FFF:0"

/-- What emoji can do, one letter for each thing: `P` they are shown as emoji unless told otherwise,
`S` a selector behind them tells whether they are, `M` a modifier behind them changes their skin
tone. -/
def emojiTraitText : String :=
"23:S 2A:S 30-39:S A9:S AE:S 203C:S 2049:S 2122:S 2139:S 2194-2199:S 21A9-21AA:S 231A-231B:PS
2328:S 23CF:S 23E9-23EC:PS 23ED-23EF:S 23F0:PS 23F1-23F2:S 23F3:PS 23F8-23FA:S 24C2:S 25AA-25AB:S
25B6:S 25C0:S 25FB-25FC:S 25FD-25FE:PS 2600-2604:S 260E:S 2611:S 2614-2615:PS 2618:S 261D:SM
2620:S 2622-2623:S 2626:S 262A:S 262E-262F:S 2638-263A:S 2640:S 2642:S 2648-2653:PS 265F-2660:S
2663:S 2665-2666:S 2668:S 267B:S 267E:S 267F:PS 2692:S 2693:PS 2694-2697:S 2699:S 269B-269C:S
26A0:S 26A1:PS 26A7:S 26AA-26AB:PS 26B0-26B1:S 26BD-26BE:PS 26C4-26C5:PS 26C8:S 26CE:P 26CF:S
26D1:S 26D3:S 26D4:PS 26E9:S 26EA:PS 26F0-26F1:S 26F2-26F3:PS 26F4:S 26F5:PS 26F7-26F8:S 26F9:SM
26FA:PS 26FD:PS 2702:S 2705:P 2708-2709:S 270A-270B:PM 270C-270D:SM 270F:S 2712:S 2714:S 2716:S
271D:S 2721:S 2728:P 2733-2734:S 2744:S 2747:S 274C:P 274E:P 2753:PS 2754-2755:P 2757:PS
2763-2764:S 2795-2797:P 27A1:S 27B0:P 27BF:P 2934-2935:S 2B05-2B07:S 2B1B-2B1C:PS 2B50:PS 2B55:PS
3030:S 303D:S 3297:S 3299:S 1F004:PS 1F0CF:P 1F170-1F171:S 1F17E-1F17F:S 1F18E:P 1F191-1F19A:P
1F201:P 1F202:S 1F21A:PS 1F22F:PS 1F232-1F236:P 1F237:S 1F238-1F23A:P 1F250-1F251:P 1F300-1F30C:P
1F30D-1F30F:PS 1F310-1F314:P 1F315:PS 1F316-1F31B:P 1F31C:PS 1F31D-1F320:P 1F321:S 1F324-1F32C:S
1F32D-1F335:P 1F336:S 1F337-1F377:P 1F378:PS 1F379-1F37C:P 1F37D:S 1F37E-1F384:P 1F385:PM
1F386-1F392:P 1F393:PS 1F396-1F397:S 1F399-1F39B:S 1F39E-1F39F:S 1F3A0-1F3A6:P 1F3A7:PS
1F3A8-1F3AB:P 1F3AC-1F3AE:PS 1F3AF-1F3C1:P 1F3C2:PSM 1F3C3:PM 1F3C4:PSM 1F3C5:P 1F3C6:PS 1F3C7:PM
1F3C8-1F3C9:P 1F3CA:PSM 1F3CB-1F3CC:SM 1F3CD-1F3CE:S 1F3CF-1F3D3:P 1F3D4-1F3DF:S 1F3E0:PS
1F3E1-1F3EC:P 1F3ED:PS 1F3EE-1F3F0:P 1F3F3:S 1F3F4:P 1F3F5:S 1F3F7:S 1F3F8-1F3FA:P 1F400-1F407:P
1F408:PS 1F409-1F414:P 1F415:PS 1F416-1F41E:P 1F41F:PS 1F420-1F425:P 1F426:PS 1F427-1F43E:P
1F43F:S 1F440:P 1F441:S 1F442:PSM 1F443:PM 1F444-1F445:P 1F446-1F449:PSM 1F44A-1F44C:PM
1F44D-1F44E:PSM 1F44F-1F450:PM 1F451-1F452:P 1F453:PS 1F454-1F465:P 1F466-1F469:PM 1F46A:PSM
1F46B-1F478:PM 1F479-1F47B:P 1F47C:PM 1F47D:PS 1F47E-1F480:P 1F481-1F483:PM 1F484:P 1F485-1F487:PM
1F488-1F48E:P 1F48F:PM 1F490:P 1F491:PM 1F492-1F4A2:P 1F4A3:PS 1F4A4-1F4A9:P 1F4AA:PM
1F4AB-1F4AF:P 1F4B0:PS 1F4B1-1F4B2:P 1F4B3:PS 1F4B4-1F4BA:P 1F4BB:PS 1F4BC-1F4BE:P 1F4BF:PS
1F4C0-1F4CA:P 1F4CB:PS 1F4CC-1F4D9:P 1F4DA:PS 1F4DB-1F4DE:P 1F4DF:PS 1F4E0-1F4E3:P 1F4E4-1F4E6:PS
1F4E7-1F4E9:P 1F4EA-1F4ED:PS 1F4EE-1F4F6:P 1F4F7:PS 1F4F8:P 1F4F9-1F4FB:PS 1F4FC:P 1F4FD:S
1F4FF-1F502:P 1F503:PS 1F504-1F507:P 1F508:PS 1F509-1F50C:P 1F50D:PS 1F50E-1F511:P 1F512-1F513:PS
1F514-1F53D:P 1F549-1F54A:S 1F54B-1F54E:P 1F550-1F567:PS 1F56F-1F570:S 1F573:S 1F574-1F575:SM
1F576-1F579:S 1F57A:PM 1F587:S 1F58A-1F58D:S 1F590:SM 1F595-1F596:PM 1F5A4:P 1F5A5:S 1F5A8:S
1F5B1-1F5B2:S 1F5BC:S 1F5C2-1F5C4:S 1F5D1-1F5D3:S 1F5DC-1F5DE:S 1F5E1:S 1F5E3:S 1F5E8:S 1F5EF:S
1F5F3:S 1F5FA:S 1F5FB-1F60F:P 1F610:PS 1F611-1F644:P 1F645-1F647:PM 1F648-1F64A:P 1F64B-1F64F:PM
1F680-1F686:P 1F687:PS 1F688-1F68C:P 1F68D:PS 1F68E-1F690:P 1F691:PS 1F692-1F693:P 1F694:PS
1F695-1F697:P 1F698:PS 1F699-1F6A2:P 1F6A3:PM 1F6A4-1F6AC:P 1F6AD:PS 1F6AE-1F6B1:P 1F6B2:PS
1F6B3:P 1F6B4-1F6B6:PM 1F6B7-1F6B8:P 1F6B9-1F6BA:PS 1F6BB:P 1F6BC:PS 1F6BD-1F6BF:P 1F6C0:PM
1F6C1-1F6C5:P 1F6CB:S 1F6CC:PM 1F6CD-1F6CF:S 1F6D0-1F6D2:P 1F6D5-1F6D7:P 1F6DC-1F6DF:P
1F6E0-1F6E5:S 1F6E9:S 1F6EB-1F6EC:P 1F6F0:S 1F6F3:S 1F6F4-1F6FC:P 1F7E0-1F7EB:P 1F7F0:P 1F90C:PM
1F90D-1F90E:P 1F90F:PM 1F910-1F917:P 1F918-1F91F:PM 1F920-1F925:P 1F926:PM 1F927-1F92F:P
1F930-1F939:PM 1F93A:P 1F93C-1F93E:PM 1F93F-1F945:P 1F947-1F976:P 1F977:PM 1F978-1F9B4:P
1F9B5-1F9B6:PM 1F9B7:P 1F9B8-1F9B9:PM 1F9BA:P 1F9BB:PM 1F9BC-1F9CC:P 1F9CD-1F9CF:PM 1F9D0:P
1F9D1-1F9DD:PM 1F9DE-1F9FF:P 1FA70-1FA7C:P 1FA80-1FA88:P 1FA90-1FABD:P 1FABF-1FAC2:P
1FAC3-1FAC5:PM 1FACE-1FADB:P 1FAE0-1FAE8:P 1FAF0-1FAF8:PM"

/-- Characters without width that part a letter of Arabic from the next one. -/
def partingText : String :=
"605 890-891 8E2 9BE 9D7 B3E B57 BBE BD7 CC0 CC2 CC7-CC8 CCA-CCB CD5-CD6 D3E D4E D57 DCF DDF
1160-11FF 180E 1B35 1B3B 1B3D 1B43 200C-200D 2065-2069 302E-302F 3164 A8FA D7B0-D7C6 D7CB-D7FB
FF9E-FFA0 FFF0-FFF8 111C2-111C3 1133E 11357 114B0 114BD 115AF 11930 1193F 11941 11A3A 11A84-11A89
11D46 11F02 1D165 1D16E-1D172 E0000 E0002-E001F E0080-E00FF E01F0-E0FFF"

end FleetWatch.Text

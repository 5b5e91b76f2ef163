import LedgerLookup.Text.Rows

/-!
# Properties of characters of domain names

What the rules for a label need to know of its characters: marks, writing directions and the
shapes of joining scripts, in the seventeenth version of Unicode.  The ranges are exact for the
characters that a label may hold and reach over the others.
-/

namespace LedgerLookup.Domain

/-- The ranges of marks, which belong to the character before them. -/
def markLines : List String := [
  "300 36F;483 489;591 5BD;5BF;5C1 5C2;5C4 5C5;5C7;610 61A;64B 65F;670;6D6 6DC;6DF 6E4;6E7 6E8",
  "6EA 6ED;711;730 74A;7A6 7B0;7EB 7F3;7FD;816 819;81B 823;825 827;829 82D;859 85B;897 89F",
  "8CA 903;93A 93C;93E 94F;951 957;962 963;981 983;9BC;9BE 9CD;9D7;9E2 9E3;9FE A03;A3C A51",
  "A70 A71;A75;A81 A83;ABC;ABE ACD;AE2 AE3;AFA B03;B3C;B3E B57;B62 B63;B82;BBE BCD;BD7;C00 C04",
  "C3C;C3E C56;C62 C63;C81 C83;CBC;CBE CD6;CE2 CE3;CF3 D03;D3B D3C;D3E D4D;D57;D62 D63;D81 D83",
  "DCA DDF;DF2 DF3;E31;E34 E3A;E47 E4E;EB1;EB4 EBC;EC8 ECE;F18 F19;F35;F37;F39;F3E F3F;F71 F84",
  "F86 F87;F8D FBC;FC6;102B 103E;1056 1059;105E 1060;1062 1064;1067 106D;1071 1074;1082 108D",
  "108F;109A 109D;135D 135F;1712 1715;1732 1734;1752 1753;1772 1773;17B6 17D3;17DD;1885 1886",
  "18A9;1920 193B;1A17 1A1B;1A55 1A7F;1AB0 1B04;1B34 1B44;1B6B 1B73;1B80 1B82;1BA1 1BAD",
  "1BE6 1BF3;1C24 1C37;1CD0 1CD2;1CD4 1CE8;1CED;1CF4;1CF7 1CF9;1DC0 1DFF;20D0 20F0;2CEF 2CF1",
  "2D7F;2DE0 2DFF;302A 302F;3099 309A;A66F A672;A674 A67D;A69E A69F;A6F0 A6F1;A802;A806;A80B",
  "A823 A827;A82C;A880 A881;A8B4 A8C5;A8E0 A8F1;A8FF;A926 A92D;A947 A953;A980 A983;A9B3 A9C0",
  "A9E5;AA29 AA36;AA43;AA4C AA4D;AA7B AA7D;AAB0;AAB2 AAB4;AAB7 AAB8;AABE AABF;AAC1;AAEB AAEF",
  "AAF5 AAF6;ABE3 ABEA;ABEC ABED;FB1E;FE20 FE2F;101FD;102E0;10376 1037A;10A01 10A0F;10A38 10A3F",
  "10AE5 10AE6;10D24 10D27;10D69 10D6D;10EAB 10EAC;10EFA 10EFF;10F46 10F50;10F82 10F85",
  "11000 11002;11038 11046;11070;11073 11074;1107F 11082;110B0 110BA;110C2;11100 11102",
  "11127 11134;11145 11146;11173;11180 11182;111B3 111C0;111C9 111CC;111CE 111CF;1122C 11237",
  "1123E;11241;112DF 112EA;11300 11303;1133B 1133C;1133E 1134D;11357;11362 11374;113B8 113D0",
  "113D2;113E1 113E2;11435 11446;1145E;114B0 114C3;115AF 115C0;115DC 115DD;11630 11640",
  "116AB 116B7;1171D 1172B;1182C 1183A;11930 1193E;11940;11942 11943;119D1 119E0;119E4",
  "11A01 11A0A;11A33 11A39;11A3B 11A3E;11A47;11A51 11A5B;11A8A 11A99;11B60 11B67;11C2F 11C3F",
  "11C92 11CB6;11D31 11D45;11D47;11D8A 11D97;11EF3 11EF6;11F00 11F01;11F03;11F34 11F42;11F5A",
  "13440;13447 13455;1611E 1612F;16AF0 16AF4;16B30 16B36;16F4F;16F51 16F92;16FE4 16FF1",
  "1BC9D 1BC9E;1CF00 1CF46;1D165 1D169;1D16D 1D182;1D185 1D18B;1D1AA 1D1AD;1D242 1D244",
  "1DA00 1DA36;1DA3B 1DA6C;1DA75;1DA84;1DA9B 1DAAF;1E000 1E08F;1E130 1E136;1E2AE;1E2EC 1E2EF",
  "1E4EC 1E4EF;1E5EE 1E5EF;1E6E3;1E6E6;1E6EE 1E6EF;1E6F5;1E8D0 1E8D6;1E944 1E94A"]

/-- The ranges of characters that are written from right to left. -/
def rightToLeftRanges : List (Nat × Nat) := [
  (0x5BE, 0x5BE), (0x5C0, 0x5C0), (0x5C3, 0x5C3), (0x5C6, 0x5C6), (0x5D0, 0x5F4), (0x608, 0x608),
  (0x60B, 0x60B), (0x60D, 0x60D), (0x61B, 0x64A), (0x66D, 0x66F), (0x671, 0x6D5), (0x6E5, 0x6E6),
  (0x6EE, 0x6EF), (0x6FA, 0x710), (0x712, 0x72F), (0x74D, 0x7A5), (0x7B1, 0x7EA), (0x7F4, 0x7F5),
  (0x7FA, 0x7FA), (0x7FE, 0x815), (0x81A, 0x81A), (0x824, 0x824), (0x828, 0x828), (0x830, 0x858),
  (0x85E, 0x88F), (0x8A0, 0x8C9), (0xFB1D, 0xFB1D), (0xFB1F, 0xFBC2), (0xFE73, 0xFE73),
  (0x10800, 0x1091B), (0x10920, 0x10A00), (0x10A10, 0x10A35), (0x10A40, 0x10AE4),
  (0x10AEB, 0x10B35), (0x10B40, 0x10D23), (0x10D40, 0x10D4F), (0x10D6F, 0x10D8F),
  (0x10E80, 0x10EA9), (0x10EAD, 0x10EC7), (0x10F00, 0x10F45), (0x10F51, 0x10F81),
  (0x10F86, 0x10FF6), (0x1E800, 0x1E8CF), (0x1E922, 0x1E943), (0x1E94B, 0x1ED3D)]

/-- The ranges of Arabic numbers. -/
def arabicNumberRanges : List (Nat × Nat) := [
  (0x660, 0x669), (0x66B, 0x66C), (0x10D30, 0x10D39), (0x10E60, 0x10E7E)]

/-- The ranges of European numbers. -/
def europeanNumberRanges : List (Nat × Nat) := [
  (0x30, 0x39), (0x6F0, 0x6F9), (0x102E1, 0x102FB)]

/-- The ranges of signs that take the direction of what is around them. -/
def neutralRanges : List (Nat × Nat) := [
  (0x0, 0x8), (0xE, 0x1B), (0x21, 0x2F), (0x3A, 0x60), (0x7B, 0xD7), (0xF7, 0xF7), (0x2B9, 0x2BA),
  (0x2C2, 0x2CF), (0x2D2, 0x2ED), (0x2EF, 0x2FF), (0x374, 0x375), (0x37E, 0x387), (0x3F6, 0x3F6),
  (0x58A, 0x58F), (0x606, 0x607), (0x609, 0x60A), (0x60C, 0x60C), (0x60E, 0x60F), (0x66A, 0x66A),
  (0x6DE, 0x6DE), (0x6E9, 0x6E9), (0x7F6, 0x7F9), (0x9F2, 0x9F3), (0x9FB, 0x9FB), (0xAF1, 0xAF1),
  (0xBF3, 0xBFA), (0xC78, 0xC7E), (0xE3F, 0xE3F), (0xF3A, 0xF3D), (0x1390, 0x1399),
  (0x1400, 0x1400), (0x169B, 0x169C), (0x17DB, 0x17DB), (0x17F0, 0x180A), (0x1940, 0x1945),
  (0x19DE, 0x19FF), (0x1B4F, 0x1B4F), (0x1FEF, 0x1FEF), (0x200C, 0x20C1), (0x2104, 0x214D),
  (0x218A, 0x2335), (0x237B, 0x2394), (0x2396, 0x26AB), (0x26AD, 0x27FF), (0x2900, 0x2BFF),
  (0x2CE5, 0x2CEA), (0x2CF9, 0x2CFF), (0x2E00, 0x3004), (0x3008, 0x3020), (0x3030, 0x3030),
  (0x3037, 0x3037), (0x303D, 0x303F), (0x30A0, 0x30A0), (0x30FB, 0x30FB), (0x31C0, 0x31E5),
  (0x4DC0, 0x4DFF), (0xA490, 0xA4C6), (0xA60D, 0xA60F), (0xA673, 0xA673), (0xA67E, 0xA67F),
  (0xA700, 0xA721), (0xA788, 0xA788), (0xA828, 0xA82B), (0xA838, 0xA839), (0xA874, 0xA877),
  (0xAB6A, 0xAB6B), (0xFBC3, 0xFDFF), (0xFE45, 0xFE46), (0x10101, 0x10101), (0x10140, 0x1018C),
  (0x10190, 0x101A0), (0x1091F, 0x1091F), (0x10B39, 0x10B3F), (0x10D6E, 0x10D6E),
  (0x10ED0, 0x10ED8), (0x11052, 0x11065), (0x11660, 0x1166C), (0x11FD5, 0x11FF1),
  (0x16FE2, 0x16FE2), (0x1CC00, 0x1CEF0), (0x1D1E9, 0x1D241), (0x1D245, 0x1D245),
  (0x1D300, 0x1D356), (0x1E2FF, 0x1E2FF), (0x1EEF0, 0x1F12F), (0x1F16D, 0x1F16F),
  (0x1F1AD, 0x1F1AD), (0x1F260, 0x1FBFA)]

/-- The ranges of marks that take the direction of the character before them. -/
def nonspacingLines : List String := [
  "300 36F;483 489;591 5BD;5BF;5C1 5C2;5C4 5C5;5C7;610 61A;64B 65F;670;6D6 6DC;6DF 6E4;6E7 6E8",
  "6EA 6ED;711;730 74A;7A6 7B0;7EB 7F3;7FD;816 819;81B 823;825 827;829 82D;859 85B;897 89F",
  "8CA 902;93A;93C;941 948;94D;951 957;962 963;981;9BC;9C1 9C4;9CD;9E2 9E3;9FE A02;A3C;A41 A51",
  "A70 A71;A75;A81 A82;ABC;AC1 AC8;ACD;AE2 AE3;AFA B01;B3C;B3F;B41 B44;B4D B56;B62 B63;B82;BC0",
  "BCD;C00;C04;C3C;C3E C40;C46 C56;C62 C63;C81;CBC;CCC CCD;CE2 CE3;D00 D01;D3B D3C;D41 D44;D4D",
  "D62 D63;D81;DCA;DD2 DD6;E31;E34 E3A;E47 E4E;EB1;EB4 EBC;EC8 ECE;F18 F19;F35;F37;F39;F71 F7E",
  "F80 F84;F86 F87;F8D FBC;FC6;102D 1030;1032 1037;1039 103A;103D 103E;1058 1059;105E 1060",
  "1071 1074;1082;1085 1086;108D;109D;135D 135F;1712 1714;1732 1733;1752 1753;1772 1773",
  "17B7 17BD;17C6;17C9 17D3;17DD;1885 1886;18A9;1920 1922;1927 1928;1932;1939 193B;1A17 1A18",
  "1A1B;1A56;1A58 1A60;1A62;1A65 1A6C;1A73 1A7F;1AB0 1B03;1B34;1B36 1B3A;1B3C;1B42;1B6B 1B73",
  "1B80 1B81;1BA2 1BA5;1BA8 1BA9;1BAB 1BAD;1BE6;1BE8 1BE9;1BED;1BEF 1BF1;1C2C 1C33;1C36 1C37",
  "1CD0 1CD2;1CD4 1CE0;1CE2 1CE8;1CED;1CF4;1CF8 1CF9;1DC0 1DFF;20D0 20F0;2CEF 2CF1;2D7F",
  "2DE0 2DFF;302A 302D;3099 309A;A66F A672;A674 A67D;A69E A69F;A6F0 A6F1;A802;A806;A80B",
  "A825 A826;A82C;A8C4 A8C5;A8E0 A8F1;A8FF;A926 A92D;A947 A951;A980 A982;A9B3;A9B6 A9B9",
  "A9BC A9BD;A9E5;AA29 AA2E;AA31 AA32;AA35 AA36;AA43;AA4C;AA7C;AAB0;AAB2 AAB4;AAB7 AAB8",
  "AABE AABF;AAC1;AAEC AAED;AAF6;ABE5;ABE8;ABED;FB1E;FE20 FE2F;101FD;102E0;10376 1037A",
  "10A01 10A0F;10A38 10A3F;10AE5 10AE6;10D24 10D27;10D69 10D6D;10EAB 10EAC;10EFA 10EFF",
  "10F46 10F50;10F82 10F85;11001;11038 11046;11070;11073 11074;1107F 11081;110B3 110B6",
  "110B9 110BA;110C2;11100 11102;11127 1112B;1112D 11134;11173;11180 11181;111B6 111BE",
  "111C9 111CC;111CF;1122F 11231;11234;11236 11237;1123E;11241;112DF;112E3 112EA;11300 11301",
  "1133B 1133C;11340;11366 11374;113BB 113C0;113CE;113D0;113D2;113E1 113E2;11438 1143F",
  "11442 11444;11446;1145E;114B3 114B8;114BA;114BF 114C0;114C2 114C3;115B2 115B5;115BC 115BD",
  "115BF 115C0;115DC 115DD;11633 1163A;1163D;1163F 11640;116AB;116AD;116B0 116B5;116B7;1171D",
  "1171F;11722 11725;11727 1172B;1182F 11837;11839 1183A;1193B 1193C;1193E;11943;119D4 119DB",
  "119E0;11A01 11A06;11A09 11A0A;11A33 11A38;11A3B 11A3E;11A47;11A51 11A56;11A59 11A5B",
  "11A8A 11A96;11A98 11A99;11B60;11B62 11B64;11B66;11C30 11C3D;11C92 11CA7;11CAA 11CB0",
  "11CB2 11CB3;11CB5 11CB6;11D31 11D45;11D47;11D90 11D91;11D95;11D97;11EF3 11EF4;11F00 11F01",
  "11F36 11F3A;11F40;11F42;11F5A;13440;13447 13455;1611E 16129;1612D 1612F;16AF0 16AF4",
  "16B30 16B36;16F4F;16F8F 16F92;16FE4;1BC9D 1BC9E;1CF00 1CF46;1D167 1D169;1D17B 1D182",
  "1D185 1D18B;1D1AA 1D1AD;1D242 1D244;1DA00 1DA36;1DA3B 1DA6C;1DA75;1DA84;1DA9B 1DAAF",
  "1E000 1E08F;1E130 1E136;1E2AE;1E2EC 1E2EF;1E4EC 1E4EF;1E5EE 1E5EF;1E6E3;1E6E6;1E6EE 1E6EF",
  "1E6F5;1E8D0 1E8D6;1E944 1E94A"]

/-- The ranges of characters that join on both sides. -/
def dualJoiningRanges : List (Nat × Nat) := [
  (0x620, 0x620), (0x626, 0x626), (0x628, 0x628), (0x62A, 0x62E), (0x633, 0x63F), (0x641, 0x647),
  (0x649, 0x64A), (0x66E, 0x66F), (0x679, 0x687), (0x69A, 0x6BF), (0x6C1, 0x6C2), (0x6CC, 0x6CC),
  (0x6CE, 0x6CE), (0x6D0, 0x6D1), (0x6FA, 0x6FC), (0x6FF, 0x6FF), (0x712, 0x714), (0x71A, 0x71D),
  (0x71F, 0x727), (0x729, 0x729), (0x72B, 0x72B), (0x72D, 0x72E), (0x74E, 0x758), (0x75C, 0x76A),
  (0x76D, 0x770), (0x772, 0x772), (0x775, 0x777), (0x77A, 0x77F), (0x7CA, 0x7EA), (0x841, 0x845),
  (0x848, 0x848), (0x84A, 0x853), (0x855, 0x855), (0x860, 0x860), (0x862, 0x865), (0x868, 0x868),
  (0x886, 0x886), (0x889, 0x88D), (0x88F, 0x88F), (0x8A0, 0x8A9), (0x8AF, 0x8B0), (0x8B3, 0x8B8),
  (0x8BA, 0x8C8), (0x1807, 0x1807), (0x1820, 0x1878), (0x1887, 0x18A8), (0x18AA, 0x18AA),
  (0xA840, 0xA871), (0x10AC0, 0x10AC4), (0x10AD3, 0x10AD6), (0x10AD8, 0x10ADC), (0x10ADE, 0x10AE0),
  (0x10AEB, 0x10AEE), (0x10B80, 0x10B80), (0x10B82, 0x10B82), (0x10B86, 0x10B88),
  (0x10B8A, 0x10B8B), (0x10B8D, 0x10B8D), (0x10B90, 0x10B90), (0x10BAD, 0x10BAE),
  (0x10D01, 0x10D21), (0x10D23, 0x10D23), (0x10EC3, 0x10EC4), (0x10EC6, 0x10EC7),
  (0x10F30, 0x10F32), (0x10F34, 0x10F44), (0x10F51, 0x10F53), (0x10F70, 0x10F73),
  (0x10F76, 0x10F81), (0x10FB0, 0x10FB0), (0x10FB2, 0x10FB3), (0x10FB8, 0x10FB8),
  (0x10FBB, 0x10FBC), (0x10FBE, 0x10FBF), (0x10FC1, 0x10FC1), (0x10FC4, 0x10FC4),
  (0x10FCA, 0x10FCA), (0x1E922, 0x1E943)]

/-- The ranges of characters that join on the left side only. -/
def leftJoiningRanges : List (Nat × Nat) := [
  (0xA872, 0xA872), (0x10ACD, 0x10ACD), (0x10AD7, 0x10AD7), (0x10D00, 0x10D00), (0x10FCB, 0x10FCB)]

/-- The ranges of characters that join on the right side only. -/
def rightJoiningRanges : List (Nat × Nat) := [
  (0x622, 0x625), (0x627, 0x627), (0x629, 0x629), (0x62F, 0x632), (0x648, 0x648), (0x671, 0x673),
  (0x688, 0x699), (0x6C0, 0x6C0), (0x6C3, 0x6CB), (0x6CD, 0x6CD), (0x6CF, 0x6CF), (0x6D2, 0x6D3),
  (0x6D5, 0x6D5), (0x6EE, 0x6EF), (0x710, 0x710), (0x715, 0x719), (0x71E, 0x71E), (0x728, 0x728),
  (0x72A, 0x72A), (0x72C, 0x72C), (0x72F, 0x72F), (0x74D, 0x74D), (0x759, 0x75B), (0x76B, 0x76C),
  (0x771, 0x771), (0x773, 0x774), (0x778, 0x779), (0x840, 0x840), (0x846, 0x847), (0x849, 0x849),
  (0x854, 0x854), (0x856, 0x858), (0x867, 0x867), (0x869, 0x882), (0x88E, 0x88E), (0x8AA, 0x8AC),
  (0x8AE, 0x8AE), (0x8B1, 0x8B2), (0x8B9, 0x8B9), (0x10AC5, 0x10AC5), (0x10AC7, 0x10AC7),
  (0x10AC9, 0x10ACA), (0x10ACE, 0x10AD2), (0x10ADD, 0x10ADD), (0x10AE1, 0x10AE1),
  (0x10AE4, 0x10AE4), (0x10AEF, 0x10AEF), (0x10B81, 0x10B81), (0x10B83, 0x10B85),
  (0x10B89, 0x10B89), (0x10B8C, 0x10B8C), (0x10B8E, 0x10B8F), (0x10B91, 0x10B91),
  (0x10BA9, 0x10BAC), (0x10D22, 0x10D22), (0x10EC2, 0x10EC2), (0x10F33, 0x10F33),
  (0x10F54, 0x10F54), (0x10F74, 0x10F75), (0x10FB4, 0x10FB6), (0x10FB9, 0x10FBA),
  (0x10FBD, 0x10FBD), (0x10FC2, 0x10FC3), (0x10FC9, 0x10FC9)]

/-- The ranges of characters that joining looks through. -/
def transparentLines : List String := [
  "300 36F;483 489;591 5BD;5BF;5C1 5C2;5C4 5C5;5C7;610 61A;64B 65F;670;6D6 6DC;6DF 6E4;6E7 6E8",
  "6EA 6ED;711;730 74A;7A6 7B0;7EB 7F3;7FD;816 819;81B 823;825 827;829 82D;859 85B;897 89F",
  "8CA 902;93A;93C;941 948;94D;951 957;962 963;981;9BC;9C1 9C4;9CD;9E2 9E3;9FE A02;A3C;A41 A51",
  "A70 A71;A75;A81 A82;ABC;AC1 AC8;ACD;AE2 AE3;AFA B01;B3C;B3F;B41 B44;B4D B56;B62 B63;B82;BC0",
  "BCD;C00;C04;C3C;C3E C40;C46 C56;C62 C63;C81;CBC;CBF;CC6;CCC CCD;CE2 CE3;D00 D01;D3B D3C",
  "D41 D44;D4D;D62 D63;D81;DCA;DD2 DD6;E31;E34 E3A;E47 E4E;EB1;EB4 EBC;EC8 ECE;F18 F19;F35;F37",
  "F39;F71 F7E;F80 F84;F86 F87;F8D FBC;FC6;102D 1030;1032 1037;1039 103A;103D 103E;1058 1059",
  "105E 1060;1071 1074;1082;1085 1086;108D;109D;135D 135F;1712 1714;1732 1733;1752 1753",
  "1772 1773;17B7 17BD;17C6;17C9 17D3;17DD;1885 1886;18A9;1920 1922;1927 1928;1932;1939 193B",
  "1A17 1A18;1A1B;1A56;1A58 1A60;1A62;1A65 1A6C;1A73 1A7F;1AB0 1B03;1B34;1B36 1B3A;1B3C;1B42",
  "1B6B 1B73;1B80 1B81;1BA2 1BA5;1BA8 1BA9;1BAB 1BAD;1BE6;1BE8 1BE9;1BED;1BEF 1BF1;1C2C 1C33",
  "1C36 1C37;1CD0 1CD2;1CD4 1CE0;1CE2 1CE8;1CED;1CF4;1CF8 1CF9;1DC0 1DFF;20D0 20F0;2CEF 2CF1",
  "2D7F;2DE0 2DFF;302A 302D;3099 309A;A66F A672;A674 A67D;A69E A69F;A6F0 A6F1;A802;A806;A80B",
  "A825 A826;A82C;A8C4 A8C5;A8E0 A8F1;A8FF;A926 A92D;A947 A951;A980 A982;A9B3;A9B6 A9B9",
  "A9BC A9BD;A9E5;AA29 AA2E;AA31 AA32;AA35 AA36;AA43;AA4C;AA7C;AAB0;AAB2 AAB4;AAB7 AAB8",
  "AABE AABF;AAC1;AAEC AAED;AAF6;ABE5;ABE8;ABED;FB1E;FE20 FE2F;101FD;102E0;10376 1037A",
  "10A01 10A0F;10A38 10A3F;10AE5 10AE6;10D24 10D27;10D69 10D6D;10EAB 10EAC;10EFA 10EFF",
  "10F46 10F50;10F82 10F85;11001;11038 11046;11070;11073 11074;1107F 11081;110B3 110B6",
  "110B9 110BA;110C2;11100 11102;11127 1112B;1112D 11134;11173;11180 11181;111B6 111BE",
  "111C9 111CC;111CF;1122F 11231;11234;11236 11237;1123E;11241;112DF;112E3 112EA;11300 11301",
  "1133B 1133C;11340;11366 11374;113BB 113C0;113CE;113D0;113D2;113E1 113E2;11438 1143F",
  "11442 11444;11446;1145E;114B3 114B8;114BA;114BF 114C0;114C2 114C3;115B2 115B5;115BC 115BD",
  "115BF 115C0;115DC 115DD;11633 1163A;1163D;1163F 11640;116AB;116AD;116B0 116B5;116B7;1171D",
  "1171F;11722 11725;11727 1172B;1182F 11837;11839 1183A;1193B 1193C;1193E;11943;119D4 119DB",
  "119E0;11A01 11A0A;11A33 11A38;11A3B 11A3E;11A47;11A51 11A56;11A59 11A5B;11A8A 11A96",
  "11A98 11A99;11B60;11B62 11B64;11B66;11C30 11C3D;11C3F;11C92 11CA7;11CAA 11CB0;11CB2 11CB3",
  "11CB5 11CB6;11D31 11D45;11D47;11D90 11D91;11D95;11D97;11EF3 11EF4;11F00 11F01;11F36 11F3A",
  "11F40;11F42;11F5A;13440;13447 13455;1611E 16129;1612D 1612F;16AF0 16AF4;16B30 16B36;16F4F",
  "16F8F 16F92;16FE4;1BC9D 1BC9E;1CF00 1CF46;1D167 1D169;1D17B 1D182;1D185 1D18B;1D1AA 1D1AD",
  "1D242 1D244;1DA00 1DA36;1DA3B 1DA6C;1DA75;1DA84;1DA9B 1DAAF;1E000 1E08F;1E130 1E136;1E2AE",
  "1E2EC 1E2EF;1E4EC 1E4EF;1E5EE 1E5EF;1E6E3;1E6E6;1E6EE 1E6EF;1E6F5;1E8D0 1E8D6;1E944 1E94B"]

/-- The ranges of marks. -/
def markRanges : List (Nat × Nat) := Text.Rows.ranges markLines

/-- The ranges of marks without a direction of their own. -/
def nonspacingRanges : List (Nat × Nat) := Text.Rows.ranges nonspacingLines

/-- The ranges of characters that joining looks through. -/
def transparentRanges : List (Nat × Nat) := Text.Rows.ranges transparentLines

end LedgerLookup.Domain

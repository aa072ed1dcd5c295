import RuleOverlay.Unicode.Table
/-! # Joining types

How a character of a cursive script joins its neighbours (`Joining_Type`), after the Unicode
17.0 character database, with the transparent type given to the marks and format characters
that have no type of their own.
-/
namespace RuleOverlay

namespace Unicode

/-- A joining type. -/
inductive JoiningType where
  | nonJoining
  | joinCausing
  | dualJoining
  | leftJoining
  | rightJoining
  | transparent
  deriving DecidableEq, Repr

def JoiningType.ofCode : Nat → JoiningType
  | 1 => .joinCausing
  | 2 => .dualJoining
  | 3 => .leftJoining
  | 4 => .rightJoining
  | 5 => .transparent
  | _ => .nonJoining

def joiningTypeRuns : List String :=
  ["0 0;ad 5;ae 0;300 5;370 0;483 5;48a 0;591 5;5be 0;5bf 5;5c0 0;5c1 5;5c3 0;5c4 5;5c6 0;5c7 5;",
   "5c8 0;610 5;61b 0;61c 5;61d 0;620 2;621 0;622 4;626 2;627 4;628 2;629 4;62a 2;62f 4;633 2;640 1;",
   "641 2;648 4;649 2;64b 5;660 0;66e 2;670 5;671 4;674 0;675 4;678 2;688 4;69a 2;6c0 4;6c1 2;6c3 4;",
   "6cc 2;6cd 4;6ce 2;6cf 4;6d0 2;6d2 4;6d4 0;6d5 4;6d6 5;6dd 0;6df 5;6e5 0;6e7 5;6e9 0;6ea 5;6ee 4;",
   "6f0 0;6fa 2;6fd 0;6ff 2;700 0;70f 5;710 4;711 5;712 2;715 4;71a 2;71e 4;71f 2;728 4;729 2;72a 4;",
   "72b 2;72c 4;72d 2;72f 4;730 5;74b 0;74d 4;74e 2;759 4;75c 2;76b 4;76d 2;771 4;772 2;773 4;775 2;",
   "778 4;77a 2;780 0;7a6 5;7b1 0;7ca 2;7eb 5;7f4 0;7fa 1;7fb 0;7fd 5;7fe 0;816 5;81a 0;81b 5;824 0;",
   "825 5;828 0;829 5;82e 0;840 4;841 2;846 4;848 2;849 4;84a 2;854 4;855 2;856 4;859 5;85c 0;860 2;",
   "861 0;862 2;866 0;867 4;868 2;869 4;86b 0;870 4;883 1;886 2;887 0;889 2;88e 4;88f 2;890 0;897 5;",
   "8a0 2;8aa 4;8ad 0;8ae 4;8af 2;8b1 4;8b3 2;8b9 4;8ba 2;8c9 0;8ca 5;8e2 0;8e3 5;903 0;93a 5;93b 0;",
   "93c 5;93d 0;941 5;949 0;94d 5;94e 0;951 5;958 0;962 5;964 0;981 5;982 0;9bc 5;9bd 0;9c1 5;9c5 0;",
   "9cd 5;9ce 0;9e2 5;9e4 0;9fe 5;9ff 0;a01 5;a03 0;a3c 5;a3d 0;a41 5;a43 0;a47 5;a49 0;a4b 5;a4e 0;",
   "a51 5;a52 0;a70 5;a72 0;a75 5;a76 0;a81 5;a83 0;abc 5;abd 0;ac1 5;ac6 0;ac7 5;ac9 0;acd 5;ace 0;",
   "ae2 5;ae4 0;afa 5;b00 0;b01 5;b02 0;b3c 5;b3d 0;b3f 5;b40 0;b41 5;b45 0;b4d 5;b4e 0;b55 5;b57 0;",
   "b62 5;b64 0;b82 5;b83 0;bc0 5;bc1 0;bcd 5;bce 0;c00 5;c01 0;c04 5;c05 0;c3c 5;c3d 0;c3e 5;c41 0;",
   "c46 5;c49 0;c4a 5;c4e 0;c55 5;c57 0;c62 5;c64 0;c81 5;c82 0;cbc 5;cbd 0;cbf 5;cc0 0;cc6 5;cc7 0;",
   "ccc 5;cce 0;ce2 5;ce4 0;d00 5;d02 0;d3b 5;d3d 0;d41 5;d45 0;d4d 5;d4e 0;d62 5;d64 0;d81 5;d82 0;",
   "dca 5;dcb 0;dd2 5;dd5 0;dd6 5;dd7 0;e31 5;e32 0;e34 5;e3b 0;e47 5;e4f 0;eb1 5;eb2 0;eb4 5;ebd 0;",
   "ec8 5;ecf 0;f18 5;f1a 0;f35 5;f36 0;f37 5;f38 0;f39 5;f3a 0;f71 5;f7f 0;f80 5;f85 0;f86 5;f88 0;",
   "f8d 5;f98 0;f99 5;fbd 0;fc6 5;fc7 0;102d 5;1031 0;1032 5;1038 0;1039 5;103b 0;103d 5;103f 0;",
   "1058 5;105a 0;105e 5;1061 0;1071 5;1075 0;1082 5;1083 0;1085 5;1087 0;108d 5;108e 0;109d 5;",
   "109e 0;135d 5;1360 0;1712 5;1715 0;1732 5;1734 0;1752 5;1754 0;1772 5;1774 0;17b4 5;17b6 0;",
   "17b7 5;17be 0;17c6 5;17c7 0;17c9 5;17d4 0;17dd 5;17de 0;1807 2;1808 0;180a 1;180b 5;180e 0;",
   "180f 5;1810 0;1820 2;1879 0;1885 5;1887 2;18a9 5;18aa 2;18ab 0;1920 5;1923 0;1927 5;1929 0;",
   "1932 5;1933 0;1939 5;193c 0;1a17 5;1a19 0;1a1b 5;1a1c 0;1a56 5;1a57 0;1a58 5;1a5f 0;1a60 5;",
   "1a61 0;1a62 5;1a63 0;1a65 5;1a6d 0;1a73 5;1a7d 0;1a7f 5;1a80 0;1ab0 5;1ade 0;1ae0 5;1aec 0;",
   "1b00 5;1b04 0;1b34 5;1b35 0;1b36 5;1b3b 0;1b3c 5;1b3d 0;1b42 5;1b43 0;1b6b 5;1b74 0;1b80 5;",
   "1b82 0;1ba2 5;1ba6 0;1ba8 5;1baa 0;1bab 5;1bae 0;1be6 5;1be7 0;1be8 5;1bea 0;1bed 5;1bee 0;",
   "1bef 5;1bf2 0;1c2c 5;1c34 0;1c36 5;1c38 0;1cd0 5;1cd3 0;1cd4 5;1ce1 0;1ce2 5;1ce9 0;1ced 5;",
   "1cee 0;1cf4 5;1cf5 0;1cf8 5;1cfa 0;1dc0 5;1e00 0;200b 5;200c 0;200d 1;200e 5;2010 0;202a 5;",
   "202f 0;2060 5;2065 0;206a 5;2070 0;20d0 5;20f1 0;2cef 5;2cf2 0;2d7f 5;2d80 0;2de0 5;2e00 0;",
   "302a 5;302e 0;3099 5;309b 0;a66f 5;a673 0;a674 5;a67e 0;a69e 5;a6a0 0;a6f0 5;a6f2 0;a802 5;",
   "a803 0;a806 5;a807 0;a80b 5;a80c 0;a825 5;a827 0;a82c 5;a82d 0;a840 2;a872 3;a873 0;a8c4 5;",
   "a8c6 0;a8e0 5;a8f2 0;a8ff 5;a900 0;a926 5;a92e 0;a947 5;a952 0;a980 5;a983 0;a9b3 5;a9b4 0;",
   "a9b6 5;a9ba 0;a9bc 5;a9be 0;a9e5 5;a9e6 0;aa29 5;aa2f 0;aa31 5;aa33 0;aa35 5;aa37 0;aa43 5;",
   "aa44 0;aa4c 5;aa4d 0;aa7c 5;aa7d 0;aab0 5;aab1 0;aab2 5;aab5 0;aab7 5;aab9 0;aabe 5;aac0 0;",
   "aac1 5;aac2 0;aaec 5;aaee 0;aaf6 5;aaf7 0;abe5 5;abe6 0;abe8 5;abe9 0;abed 5;abee 0;fb1e 5;",
   "fb1f 0;fe00 5;fe10 0;fe20 5;fe30 0;feff 5;ff00 0;fff9 5;fffc 0;101fd 5;101fe 0;102e0 5;102e1 0;",
   "10376 5;1037b 0;10a01 5;10a04 0;10a05 5;10a07 0;10a0c 5;10a10 0;10a38 5;10a3b 0;10a3f 5;10a40 0;",
   "10ac0 2;10ac5 4;10ac6 0;10ac7 4;10ac8 0;10ac9 4;10acb 0;10acd 3;10ace 4;10ad3 2;10ad7 3;10ad8 2;",
   "10add 4;10ade 2;10ae1 4;10ae2 0;10ae4 4;10ae5 5;10ae7 0;10aeb 2;10aef 4;10af0 0;10b80 2;10b81 4;",
   "10b82 2;10b83 4;10b86 2;10b89 4;10b8a 2;10b8c 4;10b8d 2;10b8e 4;10b90 2;10b91 4;10b92 0;10ba9 4;",
   "10bad 2;10baf 0;10d00 3;10d01 2;10d22 4;10d23 2;10d24 5;10d28 0;10d69 5;10d6e 0;10eab 5;10ead 0;",
   "10ec2 4;10ec3 2;10ec5 0;10ec6 2;10ec8 0;10efa 5;10f00 0;10f30 2;10f33 4;10f34 2;10f45 0;10f46 5;",
   "10f51 2;10f54 4;10f55 0;10f70 2;10f74 4;10f76 2;10f82 5;10f86 0;10fb0 2;10fb1 0;10fb2 2;10fb4 4;",
   "10fb7 0;10fb8 2;10fb9 4;10fbb 2;10fbd 4;10fbe 2;10fc0 0;10fc1 2;10fc2 4;10fc4 2;10fc5 0;10fc9 4;",
   "10fca 2;10fcb 3;10fcc 0;11001 5;11002 0;11038 5;11047 0;11070 5;11071 0;11073 5;11075 0;1107f 5;",
   "11082 0;110b3 5;110b7 0;110b9 5;110bb 0;110c2 5;110c3 0;11100 5;11103 0;11127 5;1112c 0;1112d 5;",
   "11135 0;11173 5;11174 0;11180 5;11182 0;111b6 5;111bf 0;111c9 5;111cd 0;111cf 5;111d0 0;1122f 5;",
   "11232 0;11234 5;11235 0;11236 5;11238 0;1123e 5;1123f 0;11241 5;11242 0;112df 5;112e0 0;112e3 5;",
   "112eb 0;11300 5;11302 0;1133b 5;1133d 0;11340 5;11341 0;11366 5;1136d 0;11370 5;11375 0;113bb 5;",
   "113c1 0;113ce 5;113cf 0;113d0 5;113d1 0;113d2 5;113d3 0;113e1 5;113e3 0;11438 5;11440 0;11442 5;",
   "11445 0;11446 5;11447 0;1145e 5;1145f 0;114b3 5;114b9 0;114ba 5;114bb 0;114bf 5;114c1 0;114c2 5;",
   "114c4 0;115b2 5;115b6 0;115bc 5;115be 0;115bf 5;115c1 0;115dc 5;115de 0;11633 5;1163b 0;1163d 5;",
   "1163e 0;1163f 5;11641 0;116ab 5;116ac 0;116ad 5;116ae 0;116b0 5;116b6 0;116b7 5;116b8 0;1171d 5;",
   "1171e 0;1171f 5;11720 0;11722 5;11726 0;11727 5;1172c 0;1182f 5;11838 0;11839 5;1183b 0;1193b 5;",
   "1193d 0;1193e 5;1193f 0;11943 5;11944 0;119d4 5;119d8 0;119da 5;119dc 0;119e0 5;119e1 0;11a01 5;",
   "11a0b 0;11a33 5;11a39 0;11a3b 5;11a3f 0;11a47 5;11a48 0;11a51 5;11a57 0;11a59 5;11a5c 0;11a8a 5;",
   "11a97 0;11a98 5;11a9a 0;11b60 5;11b61 0;11b62 5;11b65 0;11b66 5;11b67 0;11c30 5;11c37 0;11c38 5;",
   "11c3e 0;11c3f 5;11c40 0;11c92 5;11ca8 0;11caa 5;11cb1 0;11cb2 5;11cb4 0;11cb5 5;11cb7 0;11d31 5;",
   "11d37 0;11d3a 5;11d3b 0;11d3c 5;11d3e 0;11d3f 5;11d46 0;11d47 5;11d48 0;11d90 5;11d92 0;11d95 5;",
   "11d96 0;11d97 5;11d98 0;11ef3 5;11ef5 0;11f00 5;11f02 0;11f36 5;11f3b 0;11f40 5;11f41 0;11f42 5;",
   "11f43 0;11f5a 5;11f5b 0;13430 5;13441 0;13447 5;13456 0;1611e 5;1612a 0;1612d 5;16130 0;16af0 5;",
   "16af5 0;16b30 5;16b37 0;16f4f 5;16f50 0;16f8f 5;16f93 0;16fe4 5;16fe5 0;1bc9d 5;1bc9f 0;1bca0 5;",
   "1bca4 0;1cf00 5;1cf2e 0;1cf30 5;1cf47 0;1d167 5;1d16a 0;1d173 5;1d183 0;1d185 5;1d18c 0;1d1aa 5;",
   "1d1ae 0;1d242 5;1d245 0;1da00 5;1da37 0;1da3b 5;1da6d 0;1da75 5;1da76 0;1da84 5;1da85 0;1da9b 5;",
   "1daa0 0;1daa1 5;1dab0 0;1e000 5;1e007 0;1e008 5;1e019 0;1e01b 5;1e022 0;1e023 5;1e025 0;1e026 5;",
   "1e02b 0;1e08f 5;1e090 0;1e130 5;1e137 0;1e2ae 5;1e2af 0;1e2ec 5;1e2f0 0;1e4ec 5;1e4f0 0;1e5ee 5;",
   "1e5f0 0;1e6e3 5;1e6e4 0;1e6e6 5;1e6e7 0;1e6ee 5;1e6f0 0;1e6f5 5;1e6f6 0;1e8d0 5;1e8d7 0;1e900 2;",
   "1e944 5;1e94c 0;e0001 5;e0002 0;e0020 5;e0080 0;e0100 5;e01f0 0;"]

def joiningTypes : Table := Table.ofHex (String.join joiningTypeRuns)

def joiningType (c : Char) : JoiningType := JoiningType.ofCode (joiningTypes.value c.toNat)

end Unicode

end RuleOverlay

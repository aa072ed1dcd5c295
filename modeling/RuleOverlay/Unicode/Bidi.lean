import RuleOverlay.Unicode.Table
/-! # Bidirectional classes

The bidirectional class of a code point (UAX 9), as far as the rules for right-to-left labels
of domain names (RFC 5893) tell them apart; every other class, and an unassigned code point,
is `other`. The classes follow the Unicode 15.0 character database; a code point assigned
since then has the class of a nonspacing mark when it is a mark, boundary neutral when it is a
format character, and otherwise the default class of its block.
-/
namespace RuleOverlay

namespace Unicode

/-- A bidirectional class. -/
inductive BidiClass where
  | other
  | leftToRight
  | rightToLeft
  | arabicLetter
  | europeanNumber
  | europeanSeparator
  | europeanTerminator
  | arabicNumber
  | commonSeparator
  | nonspacingMark
  | boundaryNeutral
  | otherNeutral
  deriving DecidableEq, Repr

def BidiClass.ofCode : Nat → BidiClass
  | 1 => .leftToRight
  | 2 => .rightToLeft
  | 3 => .arabicLetter
  | 4 => .europeanNumber
  | 5 => .europeanSeparator
  | 6 => .europeanTerminator
  | 7 => .arabicNumber
  | 8 => .commonSeparator
  | 9 => .nonspacingMark
  | 10 => .boundaryNeutral
  | 11 => .otherNeutral
  | _ => .other

def bidiClassRuns : List String :=
  ["0 a;9 0;e a;1c 0;21 b;23 6;26 b;2b 5;2c 8;2d 5;2e 8;30 4;3a 8;3b b;41 1;5b b;61 1;7b b;7f a;",
   "85 0;86 a;a0 8;a1 b;a2 6;a6 b;aa 1;ab b;ad a;ae b;b0 6;b2 4;b4 b;b5 1;b6 b;b9 4;ba 1;bb b;c0 1;",
   "d7 b;d8 1;f7 b;f8 1;2b9 b;2bb 1;2c2 b;2d0 1;2d2 b;2e0 1;2e5 b;2ee 1;2ef b;300 9;370 1;374 b;",
   "376 1;378 0;37a 1;37e b;37f 1;380 0;384 b;386 1;387 b;388 1;38b 0;38c 1;38d 0;38e 1;3a2 0;3a3 1;",
   "3f6 b;3f7 1;483 9;48a 1;530 0;531 1;557 0;559 1;58a b;58b 0;58d b;58f 6;590 0;591 9;5be 2;5bf 9;",
   "5c0 2;5c1 9;5c3 2;5c4 9;5c6 2;5c7 9;5c8 0;5d0 2;5eb 0;5ef 2;5f5 0;600 7;606 b;608 3;609 6;60b 3;",
   "60c 8;60d 3;60e b;610 9;61b 3;64b 9;660 7;66a 6;66b 7;66d 3;670 9;671 3;6d6 9;6dd 7;6de b;6df 9;",
   "6e5 3;6e7 9;6e9 b;6ea 9;6ee 3;6f0 4;6fa 3;70e 0;70f 3;711 9;712 3;730 9;74b 0;74d 3;7a6 9;7b1 3;",
   "7b2 0;7c0 2;7eb 9;7f4 2;7f6 b;7fa 2;7fb 0;7fd 9;7fe 2;816 9;81a 2;81b 9;824 2;825 9;828 2;829 9;",
   "82e 0;830 2;83f 0;840 2;859 9;85c 0;85e 2;85f 0;860 3;86b 0;870 3;890 7;892 0;897 9;8a0 3;8ca 9;",
   "8e2 7;8e3 9;903 1;93a 9;93b 1;93c 9;93d 1;941 9;949 1;94d 9;94e 1;951 9;958 1;962 9;964 1;981 9;",
   "982 1;984 0;985 1;98d 0;98f 1;991 0;993 1;9a9 0;9aa 1;9b1 0;9b2 1;9b3 0;9b6 1;9ba 0;9bc 9;9bd 1;",
   "9c1 9;9c5 0;9c7 1;9c9 0;9cb 1;9cd 9;9ce 1;9cf 0;9d7 1;9d8 0;9dc 1;9de 0;9df 1;9e2 9;9e4 0;9e6 1;",
   "9f2 6;9f4 1;9fb 6;9fc 1;9fe 9;9ff 0;a01 9;a03 1;a04 0;a05 1;a0b 0;a0f 1;a11 0;a13 1;a29 0;a2a 1;",
   "a31 0;a32 1;a34 0;a35 1;a37 0;a38 1;a3a 0;a3c 9;a3d 0;a3e 1;a41 9;a43 0;a47 9;a49 0;a4b 9;a4e 0;",
   "a51 9;a52 0;a59 1;a5d 0;a5e 1;a5f 0;a66 1;a70 9;a72 1;a75 9;a76 1;a77 0;a81 9;a83 1;a84 0;a85 1;",
   "a8e 0;a8f 1;a92 0;a93 1;aa9 0;aaa 1;ab1 0;ab2 1;ab4 0;ab5 1;aba 0;abc 9;abd 1;ac1 9;ac6 0;ac7 9;",
   "ac9 1;aca 0;acb 1;acd 9;ace 0;ad0 1;ad1 0;ae0 1;ae2 9;ae4 0;ae6 1;af1 6;af2 0;af9 1;afa 9;b00 0;",
   "b01 9;b02 1;b04 0;b05 1;b0d 0;b0f 1;b11 0;b13 1;b29 0;b2a 1;b31 0;b32 1;b34 0;b35 1;b3a 0;b3c 9;",
   "b3d 1;b3f 9;b40 1;b41 9;b45 0;b47 1;b49 0;b4b 1;b4d 9;b4e 0;b55 9;b57 1;b58 0;b5c 1;b5e 0;b5f 1;",
   "b62 9;b64 0;b66 1;b78 0;b82 9;b83 1;b84 0;b85 1;b8b 0;b8e 1;b91 0;b92 1;b96 0;b99 1;b9b 0;b9c 1;",
   "b9d 0;b9e 1;ba0 0;ba3 1;ba5 0;ba8 1;bab 0;bae 1;bba 0;bbe 1;bc0 9;bc1 1;bc3 0;bc6 1;bc9 0;bca 1;",
   "bcd 9;bce 0;bd0 1;bd1 0;bd7 1;bd8 0;be6 1;bf3 b;bf9 6;bfa b;bfb 0;c00 9;c01 1;c04 9;c05 1;c0d 0;",
   "c0e 1;c11 0;c12 1;c29 0;c2a 1;c3a 0;c3c 9;c3d 1;c3e 9;c41 1;c45 0;c46 9;c49 0;c4a 9;c4e 0;c55 9;",
   "c57 0;c58 1;c5b 0;c5c 1;c5e 0;c60 1;c62 9;c64 0;c66 1;c70 0;c77 1;c78 b;c7f 1;c81 9;c82 1;c8d 0;",
   "c8e 1;c91 0;c92 1;ca9 0;caa 1;cb4 0;cb5 1;cba 0;cbc 9;cbd 1;cc5 0;cc6 1;cc9 0;cca 1;ccc 9;cce 0;",
   "cd5 1;cd7 0;cdc 1;cdf 0;ce0 1;ce2 9;ce4 0;ce6 1;cf0 0;cf1 1;cf4 0;d00 9;d02 1;d0d 0;d0e 1;d11 0;",
   "d12 1;d3b 9;d3d 1;d41 9;d45 0;d46 1;d49 0;d4a 1;d4d 9;d4e 1;d50 0;d54 1;d62 9;d64 0;d66 1;d80 0;",
   "d81 9;d82 1;d84 0;d85 1;d97 0;d9a 1;db2 0;db3 1;dbc 0;dbd 1;dbe 0;dc0 1;dc7 0;dca 9;dcb 0;dcf 1;",
   "dd2 9;dd5 0;dd6 9;dd7 0;dd8 1;de0 0;de6 1;df0 0;df2 1;df5 0;e01 1;e31 9;e32 1;e34 9;e3b 0;e3f 6;",
   "e40 1;e47 9;e4f 1;e5c 0;e81 1;e83 0;e84 1;e85 0;e86 1;e8b 0;e8c 1;ea4 0;ea5 1;ea6 0;ea7 1;eb1 9;",
   "eb2 1;eb4 9;ebd 1;ebe 0;ec0 1;ec5 0;ec6 1;ec7 0;ec8 9;ecf 0;ed0 1;eda 0;edc 1;ee0 0;f00 1;f18 9;",
   "f1a 1;f35 9;f36 1;f37 9;f38 1;f39 9;f3a b;f3e 1;f48 0;f49 1;f6d 0;f71 9;f7f 1;f80 9;f85 1;f86 9;",
   "f88 1;f8d 9;f98 0;f99 9;fbd 0;fbe 1;fc6 9;fc7 1;fcd 0;fce 1;fdb 0;1000 1;102d 9;1031 1;1032 9;",
   "1038 1;1039 9;103b 1;103d 9;103f 1;1058 9;105a 1;105e 9;1061 1;1071 9;1075 1;1082 9;1083 1;",
   "1085 9;1087 1;108d 9;108e 1;109d 9;109e 1;10c6 0;10c7 1;10c8 0;10cd 1;10ce 0;10d0 1;1249 0;",
   "124a 1;124e 0;1250 1;1257 0;1258 1;1259 0;125a 1;125e 0;1260 1;1289 0;128a 1;128e 0;1290 1;",
   "12b1 0;12b2 1;12b6 0;12b8 1;12bf 0;12c0 1;12c1 0;12c2 1;12c6 0;12c8 1;12d7 0;12d8 1;1311 0;",
   "1312 1;1316 0;1318 1;135b 0;135d 9;1360 1;137d 0;1380 1;1390 b;139a 0;13a0 1;13f6 0;13f8 1;",
   "13fe 0;1400 b;1401 1;1680 0;1681 1;169b b;169d 0;16a0 1;16f9 0;1700 1;1712 9;1715 1;1716 0;",
   "171f 1;1732 9;1734 1;1737 0;1740 1;1752 9;1754 0;1760 1;176d 0;176e 1;1771 0;1772 9;1774 0;",
   "1780 1;17b4 9;17b6 1;17b7 9;17be 1;17c6 9;17c7 1;17c9 9;17d4 1;17db 6;17dc 1;17dd 9;17de 0;",
   "17e0 1;17ea 0;17f0 b;17fa 0;1800 b;180b 9;180e a;180f 9;1810 1;181a 0;1820 1;1879 0;1880 1;",
   "1885 9;1887 1;18a9 9;18aa 1;18ab 0;18b0 1;18f6 0;1900 1;191f 0;1920 9;1923 1;1927 9;1929 1;",
   "192c 0;1930 1;1932 9;1933 1;1939 9;193c 0;1940 b;1941 0;1944 b;1946 1;196e 0;1970 1;1975 0;",
   "1980 1;19ac 0;19b0 1;19ca 0;19d0 1;19db 0;19de b;1a00 1;1a17 9;1a19 1;1a1b 9;1a1c 0;1a1e 1;",
   "1a56 9;1a57 1;1a58 9;1a5f 0;1a60 9;1a61 1;1a62 9;1a63 1;1a65 9;1a6d 1;1a73 9;1a7d 0;1a7f 9;",
   "1a80 1;1a8a 0;1a90 1;1a9a 0;1aa0 1;1aae 0;1ab0 9;1ade 0;1ae0 9;1aec 0;1b00 9;1b04 1;1b34 9;",
   "1b35 1;1b36 9;1b3b 1;1b3c 9;1b3d 1;1b42 9;1b43 1;1b4d 0;1b4e 1;1b6b 9;1b74 1;1b80 9;1b82 1;",
   "1ba2 9;1ba6 1;1ba8 9;1baa 1;1bab 9;1bae 1;1be6 9;1be7 1;1be8 9;1bea 1;1bed 9;1bee 1;1bef 9;",
   "1bf2 1;1bf4 0;1bfc 1;1c2c 9;1c34 1;1c36 9;1c38 0;1c3b 1;1c4a 0;1c4d 1;1c8b 0;1c90 1;1cbb 0;",
   "1cbd 1;1cc8 0;1cd0 9;1cd3 1;1cd4 9;1ce1 1;1ce2 9;1ce9 1;1ced 9;1cee 1;1cf4 9;1cf5 1;1cf8 9;",
   "1cfa 1;1cfb 0;1d00 1;1dc0 9;1e00 1;1f16 0;1f18 1;1f1e 0;1f20 1;1f46 0;1f48 1;1f4e 0;1f50 1;",
   "1f58 0;1f59 1;1f5a 0;1f5b 1;1f5c 0;1f5d 1;1f5e 0;1f5f 1;1f7e 0;1f80 1;1fb5 0;1fb6 1;1fbd b;",
   "1fbe 1;1fbf b;1fc2 1;1fc5 0;1fc6 1;1fcd b;1fd0 1;1fd4 0;1fd6 1;1fdc 0;1fdd b;1fe0 1;1fed b;",
   "1ff0 0;1ff2 1;1ff5 0;1ff6 1;1ffd b;1fff 0;200b a;200e 1;200f 2;2010 b;2028 0;202f 8;2030 6;",
   "2035 b;2044 8;2045 b;205f 0;2060 a;2065 0;206a a;2070 4;2071 1;2072 0;2074 4;207a 5;207c b;",
   "207f 1;2080 4;208a 5;208c b;208f 0;2090 1;209d 0;20a0 6;20c2 0;20d0 9;20f1 0;2100 b;2102 1;",
   "2103 b;2107 1;2108 b;210a 1;2114 b;2115 1;2116 b;2119 1;211e b;2124 1;2125 b;2126 1;2127 b;",
   "2128 1;2129 b;212a 1;212e 6;212f 1;213a b;213c 1;2140 b;2145 1;214a b;214e 1;2150 b;2160 1;",
   "2189 b;218c 0;2190 b;2212 5;2213 6;2214 b;2336 1;237b b;2395 1;2396 b;2427 1;242a 0;2440 b;",
   "244b 0;2460 b;2488 4;249c 1;24ea b;26ac 1;26ad b;2800 1;2900 b;2b74 0;2b76 b;2b96 1;2b97 b;",
   "2c00 1;2ce5 b;2ceb 1;2cef 9;2cf2 1;2cf4 0;2cf9 b;2d00 1;2d26 0;2d27 1;2d28 0;2d2d 1;2d2e 0;",
   "2d30 1;2d68 0;2d6f 1;2d71 0;2d7f 9;2d80 1;2d97 0;2da0 1;2da7 0;2da8 1;2daf 0;2db0 1;2db7 0;",
   "2db8 1;2dbf 0;2dc0 1;2dc7 0;2dc8 1;2dcf 0;2dd0 1;2dd7 0;2dd8 1;2ddf 0;2de0 9;2e00 b;2e5e 0;",
   "2e80 b;2e9a 0;2e9b b;2ef4 0;2f00 b;2fd6 0;2ff0 b;2ffc 1;3000 0;3001 b;3005 1;3008 b;3021 1;",
   "302a 9;302e 1;3030 b;3031 1;3036 b;3038 1;303d b;3040 0;3041 1;3097 0;3099 9;309b b;309d 1;",
   "30a0 b;30a1 1;30fb b;30fc 1;3100 0;3105 1;3130 0;3131 1;318f 0;3190 1;31c0 b;31e4 1;31e6 0;",
   "31ef 1;321d b;321f 0;3220 1;3250 b;3260 1;327c b;327f 1;32b1 b;32c0 1;32cc b;32d0 1;3377 b;",
   "337b 1;33de b;33e0 1;33ff b;3400 1;4dc0 b;4e00 1;a48d 0;a490 b;a4c7 0;a4d0 1;a60d b;a610 1;",
   "a62c 0;a640 1;a66f 9;a673 b;a674 9;a67e b;a680 1;a69e 9;a6a0 1;a6f0 9;a6f2 1;a6f8 0;a700 b;",
   "a722 1;a788 b;a789 1;a7dd 0;a7f1 1;a802 9;a803 1;a806 9;a807 1;a80b 9;a80c 1;a825 9;a827 1;",
   "a828 b;a82c 9;a82d 0;a830 1;a838 6;a83a 0;a840 1;a874 b;a878 0;a880 1;a8c4 9;a8c6 0;a8ce 1;",
   "a8da 0;a8e0 9;a8f2 1;a8ff 9;a900 1;a926 9;a92e 1;a947 9;a952 1;a954 0;a95f 1;a97d 0;a980 9;",
   "a983 1;a9b3 9;a9b4 1;a9b6 9;a9ba 1;a9bc 9;a9be 1;a9ce 0;a9cf 1;a9da 0;a9de 1;a9e5 9;a9e6 1;",
   "a9ff 0;aa00 1;aa29 9;aa2f 1;aa31 9;aa33 1;aa35 9;aa37 0;aa40 1;aa43 9;aa44 1;aa4c 9;aa4d 1;",
   "aa4e 0;aa50 1;aa5a 0;aa5c 1;aa7c 9;aa7d 1;aab0 9;aab1 1;aab2 9;aab5 1;aab7 9;aab9 1;aabe 9;",
   "aac0 1;aac1 9;aac2 1;aac3 0;aadb 1;aaec 9;aaee 1;aaf6 9;aaf7 0;ab01 1;ab07 0;ab09 1;ab0f 0;",
   "ab11 1;ab17 0;ab20 1;ab27 0;ab28 1;ab2f 0;ab30 1;ab6a b;ab6c 0;ab70 1;abe5 9;abe6 1;abe8 9;",
   "abe9 1;abed 9;abee 0;abf0 1;abfa 0;ac00 1;d7a4 0;d7b0 1;d7c7 0;d7cb 1;d7fc 0;e000 1;fa6e 0;",
   "fa70 1;fada 0;fb00 1;fb07 0;fb13 1;fb18 0;fb1d 2;fb1e 9;fb1f 2;fb29 5;fb2a 2;fb37 0;fb38 2;",
   "fb3d 0;fb3e 2;fb3f 0;fb40 2;fb42 0;fb43 2;fb45 0;fb46 2;fb50 3;fd3e b;fd50 3;fdcf b;fdd0 0;",
   "fdf0 3;fdfd b;fe00 9;fe10 b;fe1a 0;fe20 9;fe30 b;fe50 8;fe51 b;fe52 8;fe53 0;fe54 b;fe55 8;",
   "fe56 b;fe5f 6;fe60 b;fe62 5;fe64 b;fe67 0;fe68 b;fe69 6;fe6b b;fe6c 0;fe70 3;fe75 0;fe76 3;",
   "fefd 0;feff a;ff00 0;ff01 b;ff03 6;ff06 b;ff0b 5;ff0c 8;ff0d 5;ff0e 8;ff10 4;ff1a 8;ff1b b;",
   "ff21 1;ff3b b;ff41 1;ff5b b;ff66 1;ffbf 0;ffc2 1;ffc8 0;ffca 1;ffd0 0;ffd2 1;ffd8 0;ffda 1;",
   "ffdd 0;ffe0 6;ffe2 b;ffe5 6;ffe7 0;ffe8 b;ffef 0;fff9 b;fffe 0;10000 1;1000c 0;1000d 1;10027 0;",
   "10028 1;1003b 0;1003c 1;1003e 0;1003f 1;1004e 0;10050 1;1005e 0;10080 1;100fb 0;10100 1;10101 b;",
   "10102 1;10103 0;10107 1;10134 0;10137 1;10140 b;1018d 1;1018f 0;10190 b;1019d 0;101a0 b;101a1 0;",
   "101d0 1;101fd 9;101fe 0;10280 1;1029d 0;102a0 1;102d1 0;102e0 9;102e1 4;102fc 0;10300 1;10324 0;",
   "1032d 1;1034b 0;10350 1;10376 9;1037b 0;10380 1;1039e 0;1039f 1;103c4 0;103c8 1;103d6 0;10400 1;",
   "1049e 0;104a0 1;104aa 0;104b0 1;104d4 0;104d8 1;104fc 0;10500 1;10528 0;10530 1;10564 0;1056f 1;",
   "1057b 0;1057c 1;1058b 0;1058c 1;10593 0;10594 1;10596 0;10597 1;105a2 0;105a3 1;105b2 0;105b3 1;",
   "105ba 0;105bb 1;105bd 0;105c0 1;105f4 0;10600 1;10737 0;10740 1;10756 0;10760 1;10768 0;10780 1;",
   "10786 0;10787 1;107b1 0;107b2 1;107bb 0;10800 2;10806 0;10808 2;10809 0;1080a 2;10836 0;10837 2;",
   "10839 0;1083c 2;1083d 0;1083f 2;10856 0;10857 2;1089f 0;108a7 2;108b0 0;108e0 2;108f3 0;108f4 2;",
   "108f6 0;108fb 2;1091c 0;1091f b;10920 2;1093a 0;1093f 2;1095a 0;10980 2;109b8 0;109bc 2;109d0 0;",
   "109d2 2;10a01 9;10a04 0;10a05 9;10a07 0;10a0c 9;10a10 2;10a14 0;10a15 2;10a18 0;10a19 2;10a36 0;",
   "10a38 9;10a3b 0;10a3f 9;10a40 2;10a49 0;10a50 2;10a59 0;10a60 2;10aa0 0;10ac0 2;10ae5 9;10ae7 0;",
   "10aeb 2;10af7 0;10b00 2;10b36 0;10b39 b;10b40 2;10b56 0;10b58 2;10b73 0;10b78 2;10b92 0;10b99 2;",
   "10b9d 0;10ba9 2;10bb0 0;10c00 2;10c49 0;10c80 2;10cb3 0;10cc0 2;10cf3 0;10cfa 2;10d00 3;10d24 9;",
   "10d28 0;10d30 7;10d3a 0;10d40 2;10d66 0;10d69 9;10d6e 2;10d86 0;10d8e 2;10d90 0;10e60 7;10e7f 0;",
   "10e80 2;10eaa 0;10eab 9;10ead 2;10eae 0;10eb0 2;10eb2 0;10ec2 3;10ec8 0;10ed0 3;10ed9 0;10efa 9;",
   "10f00 2;10f28 0;10f30 3;10f46 9;10f51 3;10f5a 0;10f70 2;10f82 9;10f86 2;10f8a 0;10fb0 2;10fcc 0;",
   "10fe0 2;10ff7 0;11000 1;11001 9;11002 1;11038 9;11047 1;1104e 0;11052 b;11066 1;11070 9;11071 1;",
   "11073 9;11075 1;11076 0;1107f 9;11082 1;110b3 9;110b7 1;110b9 9;110bb 1;110c2 9;110c3 0;110cd 1;",
   "110ce 0;110d0 1;110e9 0;110f0 1;110fa 0;11100 9;11103 1;11127 9;1112c 1;1112d 9;11135 0;11136 1;",
   "11148 0;11150 1;11173 9;11174 1;11177 0;11180 9;11182 1;111b6 9;111bf 1;111c9 9;111cd 1;111cf 9;",
   "111d0 1;111e0 0;111e1 1;111f5 0;11200 1;11212 0;11213 1;1122f 9;11232 1;11234 9;11235 1;11236 9;",
   "11238 1;1123e 9;1123f 1;11241 9;11242 0;11280 1;11287 0;11288 1;11289 0;1128a 1;1128e 0;1128f 1;",
   "1129e 0;1129f 1;112aa 0;112b0 1;112df 9;112e0 1;112e3 9;112eb 0;112f0 1;112fa 0;11300 9;11302 1;",
   "11304 0;11305 1;1130d 0;1130f 1;11311 0;11313 1;11329 0;1132a 1;11331 0;11332 1;11334 0;11335 1;",
   "1133a 0;1133b 9;1133d 1;11340 9;11341 1;11345 0;11347 1;11349 0;1134b 1;1134e 0;11350 1;11351 0;",
   "11357 1;11358 0;1135d 1;11364 0;11366 9;1136d 0;11370 9;11375 0;11380 1;1138a 0;1138b 1;1138c 0;",
   "1138e 1;1138f 0;11390 1;113b6 0;113b7 1;113bb 9;113c1 0;113c2 1;113c3 0;113c5 1;113c6 0;113c7 1;",
   "113cb 0;113cc 1;113ce 9;113cf 1;113d0 9;113d1 1;113d2 9;113d3 1;113d6 0;113d7 1;113d9 0;113e1 9;",
   "113e3 0;11400 1;11438 9;11440 1;11442 9;11445 1;11446 9;11447 1;1145c 0;1145d 1;1145e 9;1145f 1;",
   "11462 0;11480 1;114b3 9;114b9 1;114ba 9;114bb 1;114bf 9;114c1 1;114c2 9;114c4 1;114c8 0;114d0 1;",
   "114da 0;11580 1;115b2 9;115b6 0;115b8 1;115bc 9;115be 1;115bf 9;115c1 1;115dc 9;115de 0;11600 1;",
   "11633 9;1163b 1;1163d 9;1163e 1;1163f 9;11641 1;11645 0;11650 1;1165a 0;11660 b;1166d 0;11680 1;",
   "116ab 9;116ac 1;116ad 9;116ae 1;116b0 9;116b6 1;116b7 9;116b8 1;116ba 0;116c0 1;116ca 0;116d0 1;",
   "116e4 0;11700 1;1171b 0;1171d 9;11720 1;11722 9;11726 1;11727 9;1172c 0;11730 1;11747 0;11800 1;",
   "1182f 9;11838 1;11839 9;1183b 1;1183c 0;118a0 1;118f3 0;118ff 1;11907 0;11909 1;1190a 0;1190c 1;",
   "11914 0;11915 1;11917 0;11918 1;11936 0;11937 1;11939 0;1193b 9;1193d 1;1193e 9;1193f 1;11943 9;",
   "11944 1;11947 0;11950 1;1195a 0;119a0 1;119a8 0;119aa 1;119d4 9;119d8 0;119da 9;119dc 1;119e0 9;",
   "119e1 1;119e5 0;11a00 1;11a01 9;11a07 1;11a09 9;11a0b 1;11a33 9;11a39 1;11a3b 9;11a3f 1;11a47 9;",
   "11a48 0;11a50 1;11a51 9;11a57 1;11a59 9;11a5c 1;11a8a 9;11a97 1;11a98 9;11a9a 1;11aa3 0;11ab0 1;",
   "11af9 0;11b00 1;11b0a 0;11b60 9;11b61 1;11b62 9;11b65 1;11b66 9;11b67 1;11b68 0;11bc0 1;11be2 0;",
   "11bf0 1;11bfa 0;11c00 1;11c09 0;11c0a 1;11c30 9;11c37 0;11c38 9;11c3e 1;11c46 0;11c50 1;11c6d 0;",
   "11c70 1;11c90 0;11c92 9;11ca8 0;11ca9 1;11caa 9;11cb1 1;11cb2 9;11cb4 1;11cb5 9;11cb7 0;11d00 1;",
   "11d07 0;11d08 1;11d0a 0;11d0b 1;11d31 9;11d37 0;11d3a 9;11d3b 0;11d3c 9;11d3e 0;11d3f 9;11d46 1;",
   "11d47 9;11d48 0;11d50 1;11d5a 0;11d60 1;11d66 0;11d67 1;11d69 0;11d6a 1;11d8f 0;11d90 9;11d92 0;",
   "11d93 1;11d95 9;11d96 1;11d97 9;11d98 1;11d99 0;11da0 1;11daa 0;11db0 1;11ddc 0;11de0 1;11dea 0;",
   "11ee0 1;11ef3 9;11ef5 1;11ef9 0;11f00 9;11f02 1;11f11 0;11f12 1;11f36 9;11f3b 0;11f3e 1;11f40 9;",
   "11f41 1;11f42 9;11f43 1;11f5a 9;11f5b 0;11fb0 1;11fb1 0;11fc0 1;11fd5 b;11fdd 6;11fe1 b;11ff2 0;",
   "11fff 1;1239a 0;12400 1;1246f 0;12470 1;12475 0;12480 1;12544 0;12f90 1;12ff3 0;13000 1;13440 9;",
   "13441 1;13447 9;13456 0;13460 1;143fb 0;14400 1;14647 0;16100 1;1611e 9;1612a 1;1612d 9;16130 1;",
   "1613a 0;16800 1;16a39 0;16a40 1;16a5f 0;16a60 1;16a6a 0;16a6e 1;16abf 0;16ac0 1;16aca 0;16ad0 1;",
   "16aee 0;16af0 9;16af5 1;16af6 0;16b00 1;16b30 9;16b37 1;16b46 0;16b50 1;16b5a 0;16b5b 1;16b62 0;",
   "16b63 1;16b78 0;16b7d 1;16b90 0;16d40 1;16d7a 0;16e40 1;16e9b 0;16ea0 1;16eb9 0;16ebb 1;16ed4 0;",
   "16f00 1;16f4b 0;16f4f 9;16f50 1;16f88 0;16f8f 9;16f93 1;16fa0 0;16fe0 1;16fe2 b;16fe3 1;16fe4 9;",
   "16fe5 0;16ff0 1;16ff7 0;17000 1;18cd6 0;18cff 1;18d1f 0;18d80 1;18df3 0;1aff0 1;1aff4 0;1aff5 1;",
   "1affc 0;1affd 1;1afff 0;1b000 1;1b123 0;1b132 1;1b133 0;1b150 1;1b153 0;1b155 1;1b156 0;1b164 1;",
   "1b168 0;1b170 1;1b2fc 0;1bc00 1;1bc6b 0;1bc70 1;1bc7d 0;1bc80 1;1bc89 0;1bc90 1;1bc9a 0;1bc9c 1;",
   "1bc9d 9;1bc9f 1;1bca0 a;1bca4 0;1cc00 1;1ccfd 0;1cd00 1;1ceb4 0;1ceba 1;1ced1 0;1cee0 1;1cef1 0;",
   "1cf00 9;1cf2e 0;1cf30 9;1cf47 0;1cf50 1;1cfc4 0;1d000 1;1d0f6 0;1d100 1;1d127 0;1d129 1;1d167 9;",
   "1d16a 1;1d173 a;1d17b 9;1d183 1;1d185 9;1d18c 1;1d1aa 9;1d1ae 1;1d1e9 b;1d1eb 0;1d200 b;1d242 9;",
   "1d245 b;1d246 0;1d2c0 1;1d2d4 0;1d2e0 1;1d2f4 0;1d300 b;1d357 0;1d360 1;1d379 0;1d400 1;1d455 0;",
   "1d456 1;1d49d 0;1d49e 1;1d4a0 0;1d4a2 1;1d4a3 0;1d4a5 1;1d4a7 0;1d4a9 1;1d4ad 0;1d4ae 1;1d4ba 0;",
   "1d4bb 1;1d4bc 0;1d4bd 1;1d4c4 0;1d4c5 1;1d506 0;1d507 1;1d50b 0;1d50d 1;1d515 0;1d516 1;1d51d 0;",
   "1d51e 1;1d53a 0;1d53b 1;1d53f 0;1d540 1;1d545 0;1d546 1;1d547 0;1d54a 1;1d551 0;1d552 1;1d6a6 0;",
   "1d6a8 1;1d6db b;1d6dc 1;1d715 b;1d716 1;1d74f b;1d750 1;1d789 b;1d78a 1;1d7c3 b;1d7c4 1;1d7cc 0;",
   "1d7ce 4;1d800 1;1da00 9;1da37 1;1da3b 9;1da6d 1;1da75 9;1da76 1;1da84 9;1da85 1;1da8c 0;1da9b 9;",
   "1daa0 0;1daa1 9;1dab0 0;1df00 1;1df1f 0;1df25 1;1df2b 0;1e000 9;1e007 0;1e008 9;1e019 0;1e01b 9;",
   "1e022 0;1e023 9;1e025 0;1e026 9;1e02b 0;1e030 1;1e06e 0;1e08f 9;1e090 0;1e100 1;1e12d 0;1e130 9;",
   "1e137 1;1e13e 0;1e140 1;1e14a 0;1e14e 1;1e150 0;1e290 1;1e2ae 9;1e2af 0;1e2c0 1;1e2ec 9;1e2f0 1;",
   "1e2fa 0;1e2ff 6;1e300 0;1e4d0 1;1e4ec 9;1e4f0 1;1e4fa 0;1e5d0 1;1e5ee 9;1e5f0 1;1e5fb 0;1e5ff 1;",
   "1e600 0;1e6c0 1;1e6df 0;1e6e0 1;1e6e3 9;1e6e4 1;1e6e6 9;1e6e7 1;1e6ee 9;1e6f0 1;1e6f5 9;1e6f6 0;",
   "1e6fe 1;1e700 0;1e7e0 1;1e7e7 0;1e7e8 1;1e7ec 0;1e7ed 1;1e7ef 0;1e7f0 1;1e7ff 0;1e800 2;1e8c5 0;",
   "1e8c7 2;1e8d0 9;1e8d7 0;1e900 2;1e944 9;1e94b 2;1e94c 0;1e950 2;1e95a 0;1e95e 2;1e960 0;1ec71 3;",
   "1ecb5 0;1ed01 3;1ed3e 0;1ee00 3;1ee04 0;1ee05 3;1ee20 0;1ee21 3;1ee23 0;1ee24 3;1ee25 0;1ee27 3;",
   "1ee28 0;1ee29 3;1ee33 0;1ee34 3;1ee38 0;1ee39 3;1ee3a 0;1ee3b 3;1ee3c 0;1ee42 3;1ee43 0;1ee47 3;",
   "1ee48 0;1ee49 3;1ee4a 0;1ee4b 3;1ee4c 0;1ee4d 3;1ee50 0;1ee51 3;1ee53 0;1ee54 3;1ee55 0;1ee57 3;",
   "1ee58 0;1ee59 3;1ee5a 0;1ee5b 3;1ee5c 0;1ee5d 3;1ee5e 0;1ee5f 3;1ee60 0;1ee61 3;1ee63 0;1ee64 3;",
   "1ee65 0;1ee67 3;1ee6b 0;1ee6c 3;1ee73 0;1ee74 3;1ee78 0;1ee79 3;1ee7d 0;1ee7e 3;1ee7f 0;1ee80 3;",
   "1ee8a 0;1ee8b 3;1ee9c 0;1eea1 3;1eea4 0;1eea5 3;1eeaa 0;1eeab 3;1eebc 0;1eef0 b;1eef2 0;1f000 b;",
   "1f02c 0;1f030 b;1f094 0;1f0a0 b;1f0af 0;1f0b1 b;1f0c0 0;1f0c1 b;1f0d0 0;1f0d1 b;1f0f6 0;1f100 4;",
   "1f10b b;1f110 1;1f12f b;1f130 1;1f16a b;1f170 1;1f1ad b;1f1ae 0;1f1e6 1;1f203 0;1f210 1;1f23c 0;",
   "1f240 1;1f249 0;1f250 1;1f252 0;1f260 b;1f266 0;1f300 b;1f6d8 1;1f6d9 0;1f6dc b;1f6ed 0;1f6f0 b;",
   "1f6fd 0;1f700 b;1f777 1;1f77b b;1f7da 0;1f7e0 b;1f7ec 0;1f7f0 b;1f7f1 0;1f800 b;1f80c 0;1f810 b;",
   "1f848 0;1f850 b;1f85a 0;1f860 b;1f888 0;1f890 b;1f8ae 0;1f8b0 b;1f8b2 1;1f8bc 0;1f8c0 1;1f8c2 0;",
   "1f8d0 1;1f8d9 0;1f900 b;1fa54 1;1fa58 0;1fa60 b;1fa6e 0;1fa70 b;1fa7d 0;1fa80 b;1fa89 1;1fa8b 0;",
   "1fa8e 1;1fa90 b;1fabe 1;1fabf b;1fac6 1;1fac7 0;1fac8 1;1fac9 0;1facd 1;1face b;1fadc 1;1fadd 0;",
   "1fadf 1;1fae0 b;1fae9 1;1faeb 0;1faef 1;1faf0 b;1faf9 0;1fb00 b;1fb93 0;1fb94 b;1fbcb 1;1fbf0 4;",
   "1fbfa 1;1fbfb 0;20000 1;2a6e0 0;2a700 1;2b81e 0;2b820 1;2ceae 0;2ceb0 1;2ebe1 0;2ebf0 1;2ee5e 0;",
   "2f800 1;2fa1e 0;30000 1;3134b 0;31350 1;3347a 0;e0001 a;e0002 0;e0020 a;e0080 0;e0100 9;e01f0 0;",
   "f0000 1;ffffe 0;100000 1;10fffe 0;"]

def bidiClasses : Table := Table.ofHex (String.join bidiClassRuns)

def bidiClass (c : Char) : BidiClass := BidiClass.ofCode (bidiClasses.value c.toNat)

end Unicode

end RuleOverlay

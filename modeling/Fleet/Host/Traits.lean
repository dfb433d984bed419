import Fleet.Host.Mapping

/-!
# Traits of characters

What the rules for labels ask of a character: the direction in which it is written, how it joins to
its neighbours, whether it is a mark that combines with what stands before it, and the place of such
a mark among others.

The data are rows of words. `300:Stm,e6` says that from the code point `300` up to that of the next
word every character of names is written as a mark that sits on others (`S`; else `L` to the right,
`R` to the left, `E` a digit, `A` an Arabic digit, `N` neutral), that joining looks through it (`t`;
else it joins to the next letter with `l`, to the previous one with `r`, to both with `b`), that it
is a mark (`m`), and that its place is `e6`.
-/

namespace Fleet.Host

/-- How a character takes part in the direction of a label. -/
inductive Direction
  | rightward
  | leftward
  | digit
  | arabicDigit
  | attached
  | neutral
  deriving DecidableEq, Repr

/-- How a character joins to its neighbours. -/
inductive Joining
  | never
  | previous
  | next
  | both
  | transparent
  deriving DecidableEq, Repr

/-- The traits of a character. -/
structure Traits where
  direction : Direction := .neutral
  joining : Joining := .never
  isMark : Bool := false
  /-- The place among marks; zero for a character that no mark moves across. -/
  place : Nat := 0
  deriving DecidableEq, Repr

/-- Takes up what a letter of a word says. -/
def Traits.note (t : Traits) : Char → Traits
  | 'L' => { t with direction := .rightward }
  | 'R' => { t with direction := .leftward }
  | 'E' => { t with direction := .digit }
  | 'A' => { t with direction := .arabicDigit }
  | 'S' => { t with direction := .attached }
  | 'l' => { t with joining := .next }
  | 'r' => { t with joining := .previous }
  | 'b' => { t with joining := .both }
  | 't' => { t with joining := .transparent }
  | 'm' => { t with isMark := true }
  | _ => t

/-- The traits that a word gives, and the first code point that has them. -/
def Traits.ofWord? (word : List Char) : Option (Nat × Traits) :=
  match parts ':' word with
  | [first, traits] => do
    let first ← Text.hexNumber? first
    match parts ',' traits with
    | [letters] => some (first, letters.foldl Traits.note {})
    | [letters, place] =>
      let place ← Text.hexNumber? place
      some (first, letters.foldl Traits.note { place })
    | _ => none
  | _ => none

/-- Where traits change. -/
def traitRows : List String := [
  "0:N 30:E 3a:N 61:L 7b:N df:L f7:N f8:L 2b9:N 2bb:L 2c2:N 2d0:L 2d2:N 2ee:L 2ef:N 300:Stm,e6",
  "315:Stm,e8 316:Stm,dc 31a:Stm,e8 31b:Stm,d8 31c:Stm,dc 321:Stm,ca 323:Stm,dc 327:Stm,ca",
  "329:Stm,dc 334:Stm,1 339:Stm,dc 33d:Stm,e6 347:Stm,dc 34a:Stm,e6 34d:Stm,dc 350:Stm,e6",
  "353:Stm,dc 357:Stm,e6 358:Stm,e8 359:Stm,dc 35b:Stm,e6 35c:Stm,e9 35d:Stm,ea 35f:Stm,e9",
  "360:Stm,ea 362:Stm,e9 363:Stm,e6 371:L 375:N 377:L 3f6:N 3f8:L 483:Stm,e6 488:Stm 48b:L 58a:N",
  "591:Stm,dc 592:Stm,e6 596:Stm,dc 597:Stm,e6 59a:Stm,de 59b:Stm,dc 59c:Stm,e6 5a2:Stm,dc",
  "5a8:Stm,e6 5aa:Stm,dc 5ab:Stm,e6 5ad:Stm,de 5ae:Stm,e4 5af:Stm,e6 5b0:Stm,a 5b1:Stm,b",
  "5b2:Stm,c 5b3:Stm,d 5b4:Stm,e 5b5:Stm,f 5b6:Stm,10 5b7:Stm,11 5b8:Stm,12 5b9:Stm,13 5bb:Stm,14",
  "5bc:Stm,15 5bd:Stm,16 5be:R 5bf:Stm,17 5c0:R 5c1:Stm,18 5c2:Stm,19 5c3:R 5c4:Stm,e6 5c5:Stm,dc",
  "5c6:R 5c7:Stm,12 5d0:R 606:N 608:R 609:N 60b:R 60c:N 60d:R 60e:N 610:Stm,e6 618:Stm,1e",
  "619:Stm,1f 61a:Stm,20 61b:R 620:Rb 621:R 622:Rr 626:Rb 627:Rr 628:Rb 629:Rr 62a:Rb 62f:Rr",
  "633:Rb 640:R 641:Rb 648:Rr 649:Rb 64b:Stm,1b 64c:Stm,1c 64d:Stm,1d 64e:Stm,1e 64f:Stm,1f",
  "650:Stm,20 651:Stm,21 652:Stm,22 653:Stm,e6 655:Stm,dc 657:Stm,e6 65c:Stm,dc 65d:Stm,e6",
  "65f:Stm,dc 660:A 66a:N 66b:A 66d:R 66e:Rb 670:Stm,23 671:Rr 674:R 679:Rb 688:Rr 69a:Rb 6c0:Rr",
  "6c1:Rb 6c3:Rr 6cc:Rb 6cd:Rr 6ce:Rb 6cf:Rr 6d0:Rb 6d2:Rr 6d4:R 6d5:Rr 6d6:Stm,e6 6de:N",
  "6df:Stm,e6 6e3:Stm,dc 6e4:Stm,e6 6e5:R 6e7:Stm,e6 6e9:N 6ea:Stm,dc 6eb:Stm,e6 6ed:Stm,dc",
  "6ee:Rr 6f0:E 6fa:Rb 6fd:R 6ff:Rb 700:R 710:Rr 711:Stm,24 712:Rb 715:Rr 71a:Rb 71e:Rr 71f:Rb",
  "728:Rr 729:Rb 72a:Rr 72b:Rb 72c:Rr 72d:Rb 72f:Rr 730:Stm,e6 731:Stm,dc 732:Stm,e6 734:Stm,dc",
  "735:Stm,e6 737:Stm,dc 73a:Stm,e6 73b:Stm,dc 73d:Stm,e6 73e:Stm,dc 73f:Stm,e6 742:Stm,dc",
  "743:Stm,e6 744:Stm,dc 745:Stm,e6 746:Stm,dc 747:Stm,e6 748:Stm,dc 749:Stm,e6 74d:Rr 74e:Rb",
  "759:Rr 75c:Rb 76b:Rr 76d:Rb 771:Rr 772:Rb 773:Rr 775:Rb 778:Rr 77a:Rb 780:R 7a6:Stm 7b1:R",
  "7ca:Rb 7eb:Stm,e6 7f2:Stm,dc 7f3:Stm,e6 7f4:R 7f6:N 7fa:R 7fd:Stm,dc 7fe:R 816:Stm,e6 81a:R",
  "81b:Stm,e6 824:R 825:Stm,e6 828:R 829:Stm,e6 830:R 840:Rr 841:Rb 846:Rr 848:Rb 849:Rr 84a:Rb",
  "854:Rr 855:Rb 856:Rr 859:Stm,dc 85e:R 860:Rb 861:R 862:Rb 866:R 867:Rr 868:Rb 869:Rr 883:R",
  "886:Rb 887:R 889:Rb 88e:Rr 88f:Rb 897:Stm,e6 899:Stm,dc 89c:Stm,e6 8a0:Rb 8aa:Rr 8ad:R 8ae:Rr",
  "8af:Rb 8b1:Rr 8b3:Rb 8b9:Rr 8ba:Rb 8c9:R 8ca:Stm,e6 8cf:Stm,dc 8d4:Stm,e6 8e3:Stm,dc",
  "8e4:Stm,e6 8e6:Stm,dc 8e7:Stm,e6 8e9:Stm,dc 8ea:Stm,e6 8ed:Stm,dc 8f0:Stm,1b 8f1:Stm,1c",
  "8f2:Stm,1d 8f3:Stm,e6 8f6:Stm,dc 8f7:Stm,e6 8f9:Stm,dc 8fb:Stm,e6 900:Stm 903:Lm 904:L 93a:Stm",
  "93b:Lm 93c:Stm,7 93d:L 93e:Lm 941:Stm 949:Lm 94d:Stm,9 94e:Lm 950:L 951:Stm,e6 952:Stm,dc",
  "953:Stm,e6 955:Stm 960:L 962:Stm 964:L 981:Stm 982:Lm 985:L 9bc:Stm,7 9bd:L 9be:Lm 9c1:Stm",
  "9c7:Lm 9cd:Stm,9 9ce:L 9d7:Lm 9e0:L 9e2:Stm 9e6:L 9f2:N 9f4:L 9fb:N 9fc:L 9fe:Stm,e6 a01:Stm",
  "a03:Lm a05:L a3c:Stm,7 a3e:Lm a41:Stm a4d:Stm,9 a51:Stm a5c:L a70:Stm a72:L a75:Stm a76:L",
  "a81:Stm a83:Lm a85:L abc:Stm,7 abd:L abe:Lm ac1:Stm ac9:Lm acd:Stm,9 ad0:L ae2:Stm ae6:L af1:N",
  "af9:L afa:Stm b02:Lm b05:L b3c:Stm,7 b3d:L b3e:Lm b3f:Stm b40:Lm b41:Stm b47:Lm b4d:Stm,9",
  "b55:Stm b57:Lm b5f:L b62:Stm b66:L b82:Stm b83:L bbe:Lm bc0:Stm bc1:Lm bcd:Stm,9 bd0:L bd7:Lm",
  "be6:L bf3:N c00:Stm c01:Lm c04:Stm c05:L c3c:Stm,7 c3d:L c3e:Stm c41:Lm c46:Stm c4d:Stm,9",
  "c55:Stm,54 c56:Stm,5b c58:L c62:Stm c66:L c78:N c7f:L c81:Stm c82:Lm c84:L cbc:Stm,7 cbd:L",
  "cbe:Lm cbf:Ltm cc0:Lm cc6:Ltm cc7:Lm ccc:Stm ccd:Stm,9 cd5:Lm cdc:L ce2:Stm ce6:L cf3:Lm",
  "d00:Stm d02:Lm d04:L d3b:Stm,9 d3d:L d3e:Lm d41:Stm d46:Lm d4d:Stm,9 d4e:L d57:Lm d58:L",
  "d62:Stm d66:L d81:Stm d82:Lm d85:L dca:Stm,9 dcf:Lm dd2:Stm dd8:Lm de6:L df2:Lm df4:L e31:Stm",
  "e32:L e34:Stm e38:Stm,67 e3a:Stm,9 e3f:N e40:L e47:Stm e48:Stm,6b e4c:Stm e4f:L eb1:Stm eb2:L",
  "eb4:Stm eb8:Stm,76 eba:Stm,9 ebb:Stm ebd:L ec8:Stm,7a ecc:Stm ed0:L f18:Stm,dc f1a:L",
  "f35:Stm,dc f36:L f37:Stm,dc f38:L f39:Stm,d8 f3a:N f3e:Lm f40:L f71:Stm,81 f72:Stm,82",
  "f74:Stm,84 f7a:Stm,82 f7e:Stm f7f:Lm f80:Stm,82 f82:Stm,e6 f84:Stm,9 f85:L f86:Stm,e6 f88:L",
  "f8d:Stm fbe:L fc6:Stm,dc fc7:L 102b:Lm 102d:Stm 1031:Lm 1032:Stm 1037:Stm,7 1038:Lm 1039:Stm,9",
  "103b:Lm 103d:Stm 103f:L 1056:Lm 1058:Stm 105a:L 105e:Stm 1061:L 1062:Lm 1065:L 1067:Lm 106e:L",
  "1071:Stm 1075:L 1082:Stm 1083:Lm 1085:Stm 1087:Lm 108d:Stm,dc 108e:L 108f:Lm 1090:L 109a:Lm",
  "109d:Stm 109e:L 135d:Stm,e6 1360:L 1390:N 13a0:L 1400:N 1401:L 169b:N 16a0:L 1712:Stm",
  "1714:Stm,9 1715:Lm,9 171f:L 1732:Stm 1734:Lm,9 1735:L 1752:Stm 1760:L 1772:Stm 1780:L 17b6:Lm",
  "17b7:Stm 17be:Lm 17c6:Stm 17c7:Lm 17c9:Stm 17d2:Stm,9 17d3:Stm 17d4:L 17db:N 17dc:L",
  "17dd:Stm,e6 17e0:L 17f0:N 1807:Nb 1808:N 1810:L 1820:Lb 1880:L 1885:Stm 1887:Lb 18a9:Stm,e4",
  "18aa:Lb 18b0:L 1920:Stm 1923:Lm 1927:Stm 1929:Lm 1932:Stm 1933:Lm 1939:Stm,de 193a:Stm,e6",
  "193b:Stm,dc 1940:N 1946:L 19de:N 1a00:L 1a17:Stm,e6 1a18:Stm,dc 1a19:Lm 1a1b:Stm 1a1e:L",
  "1a55:Lm 1a56:Stm 1a57:Lm 1a58:Stm 1a60:Stm,9 1a61:Lm 1a62:Stm 1a63:Lm 1a65:Stm 1a6d:Lm",
  "1a73:Stm 1a75:Stm,e6 1a7f:Stm,dc 1a80:L 1ab0:Stm,e6 1ab5:Stm,dc 1abb:Stm,e6 1abd:Stm,dc",
  "1abe:Stm 1abf:Stm,dc 1ac1:Stm,e6 1ac3:Stm,dc 1ac5:Stm,e6 1aca:Stm,dc 1acb:Stm,e6 1add:Stm,dc",
  "1ae0:Stm,e6 1b00:Stm 1b04:Lm 1b05:L 1b34:Stm,7 1b35:Lm 1b36:Stm 1b3b:Lm 1b3c:Stm 1b3d:Lm",
  "1b42:Stm 1b43:Lm 1b44:Lm,9 1b45:L 1b6b:Stm,e6 1b6c:Stm,dc 1b6d:Stm,e6 1b74:L 1b80:Stm 1b82:Lm",
  "1b83:L 1ba1:Lm 1ba2:Stm 1ba6:Lm 1ba8:Stm 1baa:Lm,9 1bab:Stm,9 1bac:Stm 1bae:L 1be6:Stm,7",
  "1be7:Lm 1be8:Stm 1bea:Lm 1bed:Stm 1bee:Lm 1bef:Stm 1bf2:Lm,9 1bfc:L 1c24:Lm 1c2c:Stm 1c34:Lm",
  "1c36:Stm 1c37:Stm,7 1c3b:L 1cd0:Stm,e6 1cd3:L 1cd4:Stm,1 1cd5:Stm,dc 1cda:Stm,e6 1cdc:Stm,dc",
  "1ce0:Stm,e6 1ce1:Lm 1ce2:Stm,1 1ce9:L 1ced:Stm,dc 1cee:L 1cf4:Stm,e6 1cf5:L 1cf7:Lm",
  "1cf8:Stm,e6 1cfa:L 1dc0:Stm,e6 1dc2:Stm,dc 1dc3:Stm,e6 1dca:Stm,dc 1dcb:Stm,e6 1dcd:Stm,ea",
  "1dce:Stm,d6 1dcf:Stm,dc 1dd0:Stm,ca 1dd1:Stm,e6 1df6:Stm,e8 1df7:Stm,e4 1df9:Stm,dc",
  "1dfa:Stm,da 1dfb:Stm,e6 1dfc:Stm,e9 1dfd:Stm,dc 1dfe:Stm,e6 1dff:Stm,dc 1e01:L 200c:N",
  "20d0:Stm,e6 20d2:Stm,1 20d4:Stm,e6 20d8:Stm,1 20db:Stm,e6 20dd:Stm 20e1:Stm,e6 20e2:Stm",
  "20e5:Stm,1 20e7:Stm,e6 20e8:Stm,dc 20e9:Stm,e6 20ea:Stm,1 20ec:Stm,dc 20f0:Stm,e6 2104:N",
  "214e:L 218a:N 2336:L 237b:N 2395:L 2396:N 26ac:L 26ad:N 2800:L 2900:N 2c30:L 2ce5:N 2cec:L",
  "2cef:Stm,e6 2cf3:L 2cf9:N 2d00:L 2d7f:Stm,9 2d80:L 2de0:Stm,e6 2e00:N 3005:L 3008:N 3021:L",
  "302a:Stm,da 302b:Stm,e4 302c:Stm,e8 302d:Stm,de 302e:Lm,e0 3030:N 3031:L 3037:N 303b:L 303d:N",
  "3041:L 3099:Stm,8 309d:L 30a0:N 30a1:L 30fb:N 30fc:L 31c0:N 31f0:L 4dc0:N 4e00:L a490:N a4d0:L",
  "a60d:N a610:L a66f:Stm,e6 a670:Stm a673:N a674:Stm,e6 a67e:N a681:L a69e:Stm,e6 a6a0:L",
  "a6f0:Stm,e6 a6f2:L a700:N a723:L a788:N a789:L a802:Stm a803:L a806:Stm,9 a807:L a80b:Stm",
  "a80c:L a823:Lm a825:Stm a827:Lm a828:N a82c:Stm,9 a830:L a838:N a840:Lb a872:Ll a873:L a874:N",
  "a880:Lm a882:L a8b4:Lm a8c4:Stm,9 a8c5:Stm a8ce:L a8e0:Stm,e6 a8f2:L a8ff:Stm a900:L a926:Stm",
  "a92b:Stm,dc a92e:L a947:Stm a952:Lm a953:Lm,9 a95f:L a980:Stm a983:Lm a984:L a9b3:Stm,7",
  "a9b4:Lm a9b6:Stm a9ba:Lm a9bc:Stm a9be:Lm a9c0:Lm,9 a9c1:L a9e5:Stm a9e6:L aa29:Stm aa2f:Lm",
  "aa31:Stm aa33:Lm aa35:Stm aa40:L aa43:Stm aa44:L aa4c:Stm aa4d:Lm aa50:L aa7b:Lm aa7c:Stm",
  "aa7d:Lm aa7e:L aab0:Stm,e6 aab1:L aab2:Stm,e6 aab4:Stm,dc aab5:L aab7:Stm,e6 aab9:L",
  "aabe:Stm,e6 aac0:L aac1:Stm,e6 aac2:L aaeb:Lm aaec:Stm aaee:Lm aaf0:L aaf5:Lm aaf6:Stm,9",
  "ab01:L ab6a:N abc0:L abe3:Lm abe5:Stm abe6:Lm abe8:Stm abe9:Lm abeb:L abec:Lm abed:Stm,9",
  "abf0:L fb1e:Stm,1a fbb2:R fbc3:N fe20:Stm,e6 fe27:Stm,dc fe2e:Stm,e6 fe45:N fe73:R 10000:L",
  "10101:N 10102:L 10140:N 1018d:L 10190:N 101d0:L 101fd:Stm,dc 10280:L 102e0:Stm,dc 102e1:E",
  "10300:L 10376:Stm,e6 10380:L 10800:R 1091f:N 10920:R 10a01:Stm 10a0d:Stm,dc 10a0e:Stm",
  "10a0f:Stm,e6 10a10:R 10a38:Stm,e6 10a39:Stm,1 10a3a:Stm,dc 10a3f:Stm,9 10a40:R 10ac0:Rb",
  "10ac5:Rr 10ac6:R 10ac7:Rr 10ac8:R 10ac9:Rr 10acb:R 10acd:Rl 10ace:Rr 10ad3:Rb 10ad7:Rl",
  "10ad8:Rb 10add:Rr 10ade:Rb 10ae1:Rr 10ae2:R 10ae4:Rr 10ae5:Stm,e6 10ae6:Stm,dc 10aeb:Rb",
  "10aef:Rr 10af0:R 10b39:N 10b40:R 10b80:Rb 10b81:Rr 10b82:Rb 10b83:Rr 10b86:Rb 10b89:Rr",
  "10b8a:Rb 10b8c:Rr 10b8d:Rb 10b8e:Rr 10b90:Rb 10b91:Rr 10b99:R 10ba9:Rr 10bad:Rb 10baf:R",
  "10d00:Rl 10d01:Rb 10d22:Rr 10d23:Rb 10d24:Stm,e6 10d30:A 10d40:R 10d69:Stm,e6 10d6e:N 10d6f:R",
  "10e60:A 10e80:R 10eab:Stm,e6 10ead:R 10ec2:Rr 10ec3:Rb 10ec5:R 10ec6:Rb 10ed0:N 10ed1:R",
  "10efa:Stm,dc 10efc:Stm 10efd:Stm,dc 10f00:R 10f30:Rb 10f33:Rr 10f34:Rb 10f45:R 10f46:Stm,dc",
  "10f48:Stm,e6 10f4b:Stm,dc 10f4c:Stm,e6 10f4d:Stm,dc 10f51:Rb 10f54:Rr 10f55:R 10f70:Rb",
  "10f74:Rr 10f76:Rb 10f82:Stm,e6 10f83:Stm,dc 10f84:Stm,e6 10f85:Stm,dc 10f86:R 10fb0:Rb 10fb1:R",
  "10fb2:Rb 10fb4:Rr 10fb7:R 10fb8:Rb 10fb9:Rr 10fbb:Rb 10fbd:Rr 10fbe:Rb 10fc0:R 10fc1:Rb",
  "10fc2:Rr 10fc4:Rb 10fc5:R 10fc9:Rr 10fca:Rb 10fcb:Rl 10fe0:R 11000:Lm 11001:Stm 11002:Lm",
  "11003:L 11038:Stm 11046:Stm,9 11047:L 11052:N 11066:L 11070:Stm,9 11071:L 11073:Stm 11075:L",
  "1107f:Stm,9 11080:Stm 11082:Lm 11083:L 110b0:Lm 110b3:Stm 110b7:Lm 110b9:Stm,9 110ba:Stm,7",
  "110bb:L 110c2:Stm 110d0:L 11100:Stm,e6 11103:L 11127:Stm 1112c:Lm 1112d:Stm 11133:Stm,9",
  "11136:L 11145:Lm 11147:L 11173:Stm,7 11174:L 11180:Stm 11182:Lm 11183:L 111b3:Lm 111b6:Stm",
  "111bf:Lm 111c0:Lm,9 111c1:L 111c9:Stm 111ca:Stm,7 111cb:Stm 111cd:L 111ce:Lm 111cf:Stm 111d0:L",
  "1122c:Lm 1122f:Stm 11232:Lm 11234:Stm 11235:Lm,9 11236:Stm,7 11237:Stm 11238:L 1123e:Stm",
  "1123f:L 11241:Stm 11280:L 112df:Stm 112e0:Lm 112e3:Stm 112e9:Stm,7 112ea:Stm,9 112f0:L",
  "11300:Stm 11302:Lm 11305:L 1133b:Stm,7 1133d:L 1133e:Lm 11340:Stm 11341:Lm 1134d:Lm,9 11350:L",
  "11357:Lm 1135d:L 11362:Lm 11366:Stm,e6 11380:L 113b8:Lm 113bb:Stm 113c2:Lm 113ce:Stm,9",
  "113cf:Lm,9 113d0:Stm,9 113d1:L 113d2:Stm 113d3:L 113e1:Stm,e6 11400:L 11435:Lm 11438:Stm",
  "11440:Lm 11442:Stm,9 11443:Stm 11445:Lm 11446:Stm,7 11447:L 1145e:Stm,e6 1145f:L 114b0:Lm",
  "114b3:Stm 114b9:Lm 114ba:Stm 114bb:Lm 114bf:Stm 114c1:Lm 114c2:Stm,9 114c3:Stm,7 114c4:L",
  "115af:Lm 115b2:Stm 115b8:Lm 115bc:Stm 115be:Lm 115bf:Stm,9 115c0:Stm,7 115c1:L 115dc:Stm",
  "11600:L 11630:Lm 11633:Stm 1163b:Lm 1163d:Stm 1163e:Lm 1163f:Stm,9 11640:Stm 11641:L 11660:N",
  "11680:L 116ab:Stm 116ac:Lm 116ad:Stm 116ae:Lm 116b0:Stm 116b6:Lm,9 116b7:Stm,7 116b8:L",
  "1171d:Stm 1171e:Sm 1171f:Stm 11720:Lm 11722:Stm 11726:Lm 11727:Stm 1172b:Stm,9 11730:L",
  "1182c:Lm 1182f:Stm 11838:Lm 11839:Stm,9 1183a:Stm,7 1183b:L 11930:Lm 1193b:Stm 1193d:Lm,9",
  "1193e:Stm,9 1193f:L 11940:Lm 11941:L 11942:Lm 11943:Stm,7 11944:L 119d1:Lm 119d4:Stm 119dc:Lm",
  "119e0:Stm,9 119e1:L 119e4:Lm 11a00:L 11a01:Stm 11a07:Ltm 11a09:Stm 11a0b:L 11a33:Stm",
  "11a34:Stm,9 11a35:Stm 11a39:Lm 11a3a:L 11a3b:Stm 11a3f:L 11a47:Stm,9 11a50:L 11a51:Stm",
  "11a57:Lm 11a59:Stm 11a5c:L 11a8a:Stm 11a97:Lm 11a98:Stm 11a99:Stm,9 11a9a:L 11b60:Stm 11b61:Lm",
  "11b62:Stm 11b65:Lm 11b66:Stm 11b67:Lm 11bc0:L 11c2f:Lm 11c30:Stm 11c3e:Lm 11c3f:Ltm,9 11c40:L",
  "11c92:Stm 11ca9:Lm 11caa:Stm 11cb1:Lm 11cb2:Stm 11cb4:Lm 11cb5:Stm 11d00:L 11d31:Stm",
  "11d42:Stm,7 11d43:Stm 11d44:Stm,9 11d46:L 11d47:Stm 11d50:L 11d8a:Lm 11d90:Stm 11d93:Lm",
  "11d95:Stm 11d96:Lm 11d97:Stm,9 11d98:L 11ef3:Stm 11ef5:Lm 11ef7:L 11f00:Stm 11f02:L 11f03:Lm",
  "11f04:L 11f34:Lm 11f36:Stm 11f3e:Lm 11f40:Stm 11f41:Lm,9 11f42:Stm,9 11f43:L 11f5a:Stm,7",
  "11fb0:L 11fd5:N 11fff:L 13440:Stm 13441:L 13447:Stm 13460:L 1611e:Stm 1612a:Lm 1612d:Stm",
  "1612f:Stm,9 16130:L 16af0:Stm,1 16af5:L 16b30:Stm,e6 16b37:L 16f4f:Stm 16f50:L 16f51:Lm",
  "16f8f:Stm 16f93:L 16fe2:N 16fe3:L 16fe4:Stm 16ff0:Lm,6 16ff2:L 1bc9d:Stm 1bc9e:Stm,1 1bc9f:L",
  "1cc00:N 1cf00:Stm 1cf50:L 1d165:Lm,d8 1d167:Stm,1 1d16a:L 1d16d:Lm,e2 1d16e:Lm,d8 1d17b:Stm,dc",
  "1d183:L 1d185:Stm,e6 1d18a:Stm,dc 1d18c:L 1d1aa:Stm,e6 1d1ae:L 1d1e9:N 1d242:Stm,e6 1d245:N",
  "1d2c0:L 1d300:N 1d360:L 1da00:Stm 1da37:L 1da3b:Stm 1da6d:L 1da75:Stm 1da76:L 1da84:Stm",
  "1da85:L 1da9b:Stm 1df00:L 1e000:Stm,e6 1e100:L 1e130:Stm,e6 1e137:L 1e2ae:Stm,e6 1e2c0:L",
  "1e2ec:Stm,e6 1e2f0:L 1e2ff:N 1e4d0:L 1e4ec:Stm,e8 1e4ee:Stm,dc 1e4ef:Stm,e6 1e4f0:L",
  "1e5ee:Stm,e6 1e5ef:Stm,dc 1e5f0:L 1e6e3:Stm,e6 1e6e4:L 1e6e6:Stm,e6 1e6e7:L 1e6ee:Stm,e6",
  "1e6f0:L 1e6f5:Stm,e6 1e6fe:L 1e800:R 1e8d0:Stm,dc 1e922:Rb 1e944:Stm,e6 1e94a:Stm,7 1e94b:Rt",
  "1e950:R 1eef0:N 1f150:L 1f16d:N 1f170:L 1f1ad:N 1f1e6:L 1f260:N 20000:L"]

/-- Where traits change, in the order of code points. -/
def traitRuns : List (Nat × Traits) := (wordsOf traitRows).filterMap Traits.ofWord?

/-- The traits of a character. -/
def traitsOf (c : Char) : Traits :=
  match (traitRuns.takeWhile fun r => r.1 ≤ c.toNat).getLast? with
  | some r => r.2
  | none => {}

end Fleet.Host

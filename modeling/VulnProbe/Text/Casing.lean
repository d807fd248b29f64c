import VulnProbe.Text.Table

namespace VulnProbe.Text

/-- What the characters of a table become; the others stay. -/
def recased (table : RunMap) (c : Char) : List Char :=
  match table.find? c.toNat with
  | some codes => codes.map fun code => Char.ofNat (shifted c.toNat code)
  | none => [c]

/-- The small forms of the non-ASCII characters. -/
def smallTable : RunMap := .ofTable
  ["HkwbCmbgbCmBhabcbabcbabcbabcbabcbabcbabcbabcbabcbabcbabcbabcbabcbabcbabcbabcbabcbabcbabcbabcbabc",
    "babcbabcbabcbacPhBKgbabcbabcbabccabcbabcbabcbabcbabcbabcbabcbabccabcbabcbabcbabcbabcbabcbabcbabc",
    "babcbabcbabcbabcbabcbabcbabcbabcbabcbabcbabcbabcbabcbabcbabcbabJhaabcbabcbabcdabQeaabcbabcbabPwa",
    "abcbbbPuaabccabGcaabPoaabPqaabcbabPuaabPybabQgaabQcaabcdabQgaabQkbabQmaabcbabcbabcbabQuaabcbabQu",
    "cabcbabQuaabcbbbQsaabcbabcbabQwaabcdabchabeaabcbabeaabcbabeaabcbabcbabcbabcbabcbabcbabcbabcbabcc",
    "abcbabcbabcbabcbabcbabcbabcbabcbabccabeaabcbabcbabHlaabEhaabcbabcbabcbabcbabcbabcbabcbabcbabcbab",
    "cbabcbabcbabcbabcbabcbabcbabcbabcbabcbabcbabJzbabcbabcbabcbabcbabcbabcbabcbabcbabchabBFYkaabcbab",
    "MnaabBFYecabcbabOzaabFiaabFmaabcbabcbabcbabcbabcLdabcbabcdabciabIygabCybcbCwbabEybbbEwbqbCmbibCm",
    "BjabqiabcbabcbabcbabcbabcbabcbabcbabcbabcbabcbabcbabcfabEpcabcbabnaabcccbJzapbGeaBfbCmBwabcbabcb",
    "abcbabcbabcbabcbabcbabcbabcbabcbabcbabcbabcbabcbabcbabcbabcjabcbabcbabcbabcbabcbabcbabcbabcbabcb",
    "abcbabcbabcbabcbabcbabcbabcbabcbabcbabcbabcbabcbabcbabcbabcbabcbabcbabcbabBeaabcbabcbabcbabcbabc",
    "babcbabccabcbabcbabcbabcbabcbabcbabcbabcbabcbabcbabcbabcbabcbabcbabcbabcbabcbabcbabcbabcbabcbabc",
    "babcbabcbabcbabcbabcbabcbabcbabcbabcbabcbabcbabcbabcbabcbabcbabcbabcbabcbabcbabcbabcbabcbabcbabc",
    "babcbabccBlbDsEHdBlbVMubabVMufabVMuBBuDbbEKZoafbqDGlabcgBqbIXjccbIXjMiabcbabcbabcbabcbabcbabcbab",
    "cbabcbabcbabcbabcbabcbabcbabcbabcbabcbabcbabcbabcbabcbabcbabcbabcbabcbabcbabcbabcbabcbabcbabcbab",
    "cbabcbabcbabcbabcbabcbabcbabcbabcbabcbabcbabcbabcbabcbabcbabcbabcbabcbabcbabcbabcbabcbabcbabcbab",
    "cbabcbabcbabcbabcbabcbabcbabcbabcbabcbabcbabcbabcbabcbabcbabcbabcbabcbabcbabcbabcjabWNtbabcbabcb",
    "abcbabcbabcbabcbabcbabcbabcbabcbabcbabcbabcbabcbabcbabcbabcbabcbabcbabcbabcbabcbabcbabcbabcbabcb",
    "abcbabcbabcbabcbabcbabcbabcbabcbabcbabcbabcbabcbabcbabcbabcbabcbabcbabcbabcbabcbabcbabcjhbpifbpk",
    "hbpihbpifbplabpbabpbabpbabpihbpyhbpihbpihbpibbpabbFraabrldbGpaabrlbbpabbHrmbbpabbIpaabnlbbJvabbJ",
    "raabrLlabWGfdabYUvaabYLngabCeBtpbBgtabcBFmzbCaCSuBvbDsBwabcbabBFUjaabLHjaabBFTdcabcbabcbabcbabBF",
    "XfaabBFUvaabBFXlaabBFXjbabccabcibbBFZxaabcbabcbabcbabcbabcbabcbabcbabcbabcbabcbabcbabcbabcbabcba",
    "bcbabcbabcbabcbabcbabcbabcbabcbabcbabcbabcbabcbabcbabcbabcbabcbabcbabcbabcbabcbabcbabcbabcbabcba",
    "bcbabcbabcbabcbabcbabcbabcbabcbabcbabcbabcbabciabcbabceabcBTYjabcbabcbabcbabcbabcbabcbabcbabcbab",
    "cbabcbabcbabcbabcbabcbabcbabcbabcbabcbabcbabcbabcbabcbabctabcbabcbabcbabcbabcbabcbabcbabcbabcbab",
    "cbabcbabcbabcbabcFfabcbabcbabcbabcbabcbabcbabcdabcbabcbabcbabcbabcbabcbabcbabcbabcbabcbabcbabcba",
    "bcbabcbabcbabcbabcbabcbabcbabcbabcbabcbabcbabcbabcbabcbabcbabcbabcbabcbabckabcbabcbabEANvaabcbab",
    "cbabcbabcbabceabcbabEVChcabcbabcdabcbabcbabcbabcbabcbabcbabcbabcbabcbabcbabEVElaabEVFhaabEVEzaab",
    "EVEfaabEVElbabEVApaabEVClaabEVAvaabCTkaabcbabcbabcbabcbabcbabcbabcbabcbabDraabEVEjaabEARvaabcbab",
    "cbabEVHdaabcbabcbabcbabcbabcbabcbabcbabcbabEVXxyabcBHAhzbCmBUzBnbDcFgBjbDcGakbDabobDabgbDabbbDaC",
    "QcBybEyGbvbCmEGoBfbCmBGJwBfbCmCmybCcBUHzBhbCq"]

/-- The capital forms of the non-ASCII characters. -/
def capitalTable : RunMap := .ofTable
  ["GzabCFeBpacKtKtawbClbgbClaabJibabbbabbbabbbabbbabbbabbbabbbabbbabbbabbbabbbabbbabbbabbbabbbabbba",
    "bbbabbbabbbabbbabbbabbbabbbabbbabRvbabbbabbbabbcabbbabbbabbbabbbabbbabbbabbbabbaacBCoThbabbbabbb",
    "abbbabbbabbbabbbabbbabbbabbbabbbabbbabbbabbbabbbabbbabbbabbbabbbabbbabbbabbbabbbabbcabbbabbbabba",
    "abXbaabPacabbbabbcabbdabbfabbcabHmdabbaabMoaabEVXycabKacabbbabbbabbcabbeabbcabbdabbbabbcabbdabbb",
    "abEifabbaabdbabbaabdbabbaabdbabbbabbbabbbabbbabbbabbbabbbabbaabGbbabbbabbbabbbabbbabbbabbbabbbab",
    "bbabbaacBGlVwbabbaabdbabbdabbbabbbabbbabbbabbbabbbabbbabbbabbbabbbabbbabbbabbbabbbabbbabbbabbbab",
    "bbabbbabbdabbbabbbabbbabbbabbbabbbabbbabbbabbiabbcbbBFZybabbeabbbabbbabbbabbbabbaabBFXmaabBFXgaa",
    "bBFXkaabQdaabPvbbbPtbabPnbabPpaabEVFidabPtaabEVFababPxaabEVHeaabEVCiaabEVEmbabQbaabQfaabEVEmaabB",
    "FUkaabEVEgcabQfbabBFUwaabQjcabQlhabBFTecabQtbabEVEkaabQtdabEVCmaabQtaabFhabbQraabFlfabQvkabEVAwa",
    "abEVAqGkabGmBrabbbabbdabbdcbKasadsKlKzBbabCxacbCvaadvMxNlaqbClaabCjaibClaabExabbEvbabEtaabEjdabD",
    "paabEdaabpbabbbabbbabbbabbbabbbabbbabbbabbbabbbabbbabbbabbaabGpaabGdaaboaabIxbabHjcabbcabbCaBfbC",
    "lapbGdbabbbabbbabbbabbbabbbabbbabbbabbbabbbabbbabbbabbbabbbabbbabbbabbbabbjabbbabbbabbbabbbabbba",
    "bbbabbbabbbabbbabbbabbbabbbabbbabbbabbbabbbabbbabbbabbbabbbabbbabbbabbbabbbabbbabbbabbcabbbabbba",
    "bbbabbbabbbabbbabbaabBdbabbbabbbabbbabbbabbbabbbabbbabbbabbbabbbabbbabbbabbbabbbabbbabbbabbbabbb",
    "abbbabbbabbbabbbabbbabbbabbbabbbabbbabbbabbbabbbabbbabbbabbbabbbabbbabbbabbbabbbabbbabbbabbbabbb",
    "abbbabbbabbbabbbabbbabbBxBlbDraacGhEbEHcBqbIXkccbIXkBDgfbpDFuabSNbaabSMzaabSMhabbSMdaabSMfaabSLr",
    "aabSHlaabEAIubabbJeabEANwdabLHkqabEARwEkabbbabbbabbbabbbabbbabbbabbbabbbabbbabbbabbbabbbabbbabbb",
    "abbbabbbabbbabbbabbbabbbabbbabbbabbbabbbabbbabbbabbbabbbabbbabbbabbbabbbabbbabbbabbbabbbabbbabbb",
    "abbbabbbabbbabbbabbbabbbabbbabbbabbbabbbabbbabbbabbbabbbabbbabbbabbbabbbabbbabbbabbbabbbabbbabbb",
    "abbbabbbabbbabbbabbbabbbabbbabbbabbbabbbabbbabbbabbaacWYtUTlaacWXxUWraacWXtUWpaacWXrUWraacWZpVCp",
    "aabEnfabbbabbbabbbabbbabbbabbbabbbabbbabbbabbbabbbabbbabbbabbbabbbabbbabbbabbbabbbabbbabbbabbbab",
    "bbabbbabbbabbbabbbabbbabbbabbbabbbabbbabbbabbbabbbabbbabbbabbbabbbabbbabbbabbbabbbabbbabbbabbbab",
    "bbabbahbqifbqkhbqihbqifbqkacUYvVKbaabqaadUYzVKfVLraabqaadUZdVKjVLtaabqaadUZhVKnVGxaabqihbqibbFsa",
    "dbGqabbHsabbJwabbIqabbJscacJfVDlaacJfVDnaacJfVDpaacJfVDraacJfVDtaacJfVDvaacJfVDxaacJfVDzaacJvVEb",
    "aacJvVEdaacJvVEfaacJvVEhaacJvVEjaacJvVElaacJvVEnaacJvVEpaacHzVEraacHzVEtaacHzVEvaacHzVExaacHzVEz",
    "aacHzVFbaacHzVFdaacHzVFfaacIpVFhaacIpVFjaacIpVFlaacIpVFnaacIpVFpaacIpVFraacIpVFtaacIpVFvaacEhVFx",
    "aacEhVFzaacEhVGbaacEhVGdaacEhVGfaacEhVGhaacEhVGjaacEhVGlaacExVGnaacExVGpaacExVGraacExVGtaacExVGv",
    "aacExVGxaacExVGzaacExVHbabbqaacqVHhaacVHzVHjaacVIxVHlbacVIfVOhaadVIhVOjVHreacVIrVIbbabVIfdacqVIn",
    "aacVItVIpaacVJxVIrbacVIzVPnaadVJbVPpVIxeacVJlVJhdbbqaadVJtVUxVVnaadVJvVUzVVncacVKbVQtaadVKdVVhVQ",
    "vibbqaadVKbVWdVWtaadVKdVWfVWtaacVKnVVlaaboaacVKjVRzaadVKlVWnVSbkacqVMfaacVLbVMhaacVNdVMjbacVLhVT",
    "faadVLjVThVMpeacVLtVMzMzabCdBhpbBfeabbBGlzbBzCTqBvbDrbabbdabBFYjaabBFYdbabbbabbbabbgabbcabbkabbb",
    "abbbabbbabbbabbbabbbabbbabbbabbbabbbabbbabbbabbbabbbabbbabbbabbbabbbabbbabbbabbbabbbabbbabbbabbb",
    "abbbabbbabbbabbbabbbabbbabbbabbbabbbabbbabbbabbbabbbabbbabbbabbbabbbabbbabbbabbbabbbabbbabbbabbb",
    "abbiabbbabbeabbmBlbVMtbabVMtfabVMtBTWdabbbabbbabbbabbbabbbabbbabbbabbbabbbabbbabbbabbbabbbabbbab",
    "bbabbbabbbabbbabbbabbbabbbabbbabbtabbbabbbabbbabbbabbbabbbabbbabbbabbbabbbabbbabbbabbbabbFfabbba",
    "bbbabbbabbbabbbabbbabbdabbbabbbabbbabbbabbbabbbabbbabbbabbbabbbabbbabbbabbbabbbabbbabbbabbbabbba",
    "bbbabbbabbbabbbabbbabbbabbbabbbabbbabbbabbbabbbabbkabbbabbcabbbabbbabbbabbbabbeabbeabbbabbaabDsc",
    "abbbabbbabbbabbbabbbabbbabbbabbbabbbabblabbbabbbabbbabbbabbbabbbabbbabbeabbbabbcabbbabbbabbbabbb",
    "abbbabbbabbbabbBaabbBHcabCTjBcDbbEKZnBEAiacHHXjHHXjaacHHXlHHXfaacHHXnHHXbaadHHXpHHXpHHXjaadHHXrH",
    "HXrHHXfaacHHWtHHWraacHHWvHHWtmacHEEnHEEjaacHEEpHEFtaacHEErHEFjaacHEDzHEEpaacHEEvHEFjBOzzbClBVhBn",
    "bDbFgBjbDbFzkbCzbobCzbgbCzbbbCzCRbBybExEvvbClEGoBfbClBGJwBfbClChybCbBUIgBhbCp"]

/-- The non-ASCII characters that are letters with a case. -/
def casedTable : RunSet := .ofTable
  ["GoakaeafwbBebHmbdeHzcBihbBeeDsaBqdcbcdbagabcbabtbDebFiiGjbBljBoEFfBlbafacBqbdZwDhcfDFukfBqccCmHj",
    "CmKrcfcBlcfchbabababBecCabgbadcbgddcfemfcbgEmanaqmDxaeacjbadegabababdbfeacdfeearBfdbBFlBzCRuIugd",
    "dbmBlbafaBTWcBtsBdFcDxddbCyufbcBFpBqbngDbBEAigmeBNtzgzBTtDbDsBjeBjEmkbobgbbbkbobgbbRjaccbBpbiBUz",
    "BynByDpvkvEFiClBGIqClBgycyBMIeDgbCsbbcacbcdblbabgbCmbdchbgbBbbdbebadgbNbcybybBebybBebybBebybBeby",
    "bhCSyjbtgfKbCjDGkCpDAazgzgz"]

/-- The non-ASCII characters that do not separate the letters of a word. -/
def caseIgnorableTable : RunSet := .ofTable
  ["GmaeabaeacbTjHjebeajbbaJrgHzafaBxBsbabbbbbaBsalfkkbaBjakuqaDxhbjbdBhabaBeBaDnkCgkeacayxBrcBsahbf",
    "iBpCfCdabaeheadgkbnapaCgaediaubBaacbCfaebebccdaBebdalbCfaeebbeaubwfbaCgacabdiahblbBeaCjamaByadaC",
    "dabcfcbdhblbBdaCgacagafbubBcbCfbediaubBdaCuahcbaDmacgliDuacijabgCvbBbababaCdnbebbfkbBjjaDydbfbbc",
    "bzbecqdnacbgapaDqaXkcBKkcBdbBebBebCmbbgiackdafaBteBzaCnbBiaEocebjagcIlbcaCgabgbabachgjcaBnaiBtcl",
    "udBwabebafaBoimbBgdcbbcCeabbdabcCghcbCmfDecbmbgeagadbByCknaBiDwRdabclcncncnbmeibkacaceBxebjbanaq",
    "mBzBgEJrbEjcEvapaDsBfBvaSbaBkddefaDpfDpcBQBuaBWcfKkaDudbjbaBcdDcboBhDaaxcDyddbiadaeazbfaFvbBarna",
    "BmhzkBucBwacdcbravbCofcbcbmaiaBjalaBzabccbfbbaBbaobfbbaDwejcEracaeaBDZsaFrqWbpdampBiacaGnahagala",
    "BjabaBvaBtbCpavcTtaIsaFteBNpfbBpbiWkcbbfdBoceaGjbWbdBmaBaebaMdbyaCafCskBxdEtaCcoBpacbkcBxdcbcaea",
    "kaBycBkebhCkambCaikdcaDrccabbgacaGbadhvbCfbdaBlgdeCsfnababaobDhhccbaxaDgfbaebbbJedgbbbBbbDhhcabb",
    "EcabacfbaDxabacdbeJzibbJwbbaeaFodcbeaBgjBofcdiajfccBumbbHqabcbaHtgbfbaDevcgbbbbEsfdabbbgbaCubdab",
    "aCnaKvblbCaefabaxaHXdqgoQYyldcDSaeChgjdTocBobSoaClqCmbbbnbYGadbgbbEUgbbdGYuBtcwUycjpcgBedFscCYdC",
    "ceBxiaoaweboCAigbqcgbbbefCjBhaGenOeaCjdTneJubJjacahbfajaRwgEfhEBfeBSXXpaBeDrEyJf"]

/-- A letter with a case. -/
def isCased (c : Char) : Bool :=
  if c.toNat < 128 then c.isAlpha else casedTable.contains c.toNat

/-- A character that is passed over when the end of a word is looked for. -/
def isCaseIgnorable (c : Char) : Bool :=
  if c.toNat < 128 then c == '\x27' || c == '.' || c == ':' || c == '^' || c.toNat == 0x60
  else caseIgnorableTable.contains c.toNat

/-- The small form of one character. -/
def lowerChar (c : Char) : List Char :=
  if c.toNat < 128 then [c.toLower] else recased smallTable c

/-- The capital form of one character. -/
def upperChar (c : Char) : List Char :=
  if c.toNat < 128 then [c.toUpper] else recased capitalTable c

/-- Whether the characters next to a place, in the order away from it, start with a cased letter once
    the ignorable ones are passed over. -/
def touchesLetter (cs : List Char) : Bool :=
  match cs.dropWhile isCaseIgnorable with
  | c :: _ => isCased c
  | [] => false

/-- The small form of a text, given the characters before it in reverse. A capital sigma that ends a
    word becomes the final sigma. -/
def lowerAfter (before : List Char) : List Char → List Char
  | [] => []
  | c :: rest =>
    (if c == '\u03A3' then
        if touchesLetter before && !touchesLetter rest then ['\u03C2'] else ['\u03C3']
      else lowerChar c)
      ++ lowerAfter (c :: before) rest

/-- The small form of a text. -/
def lower (s : String) : String :=
  String.ofList (lowerAfter [] s.toList)

/-- The capital form of a text. -/
def upper (s : String) : String :=
  String.ofList (s.toList.flatMap upperChar)

end VulnProbe.Text

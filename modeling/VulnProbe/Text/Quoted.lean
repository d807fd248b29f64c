import VulnProbe.Text.Table

namespace VulnProbe.Text

/-- The non-ASCII characters that cannot be seen on their own: controls, formats, unassigned and
    private characters, separators and extending marks. -/
def unseenTable : RunSet := .ofTable
  ["EyBgmaWwEhibgdhabauaIqgGkaBmbBybdBtbabbbbbiBbdgqkkbaBuuqaDxhbfcbbdBgbbaBeBcDlkbnBrihcydbibcbgpaz",
    "ebaleBgpBqCeCdabaeheadgkbBdacaibcbwahabcecbacfcbcabmcaddyebagdcbwahacacacddxeabgkbdablbajadawaha",
    "cafcehbaccbocdmgbhcaibcbwahacafcbbbfcbcocaddskbagcdaeccabaccccdcmebaccdadcbuvfdaiadaxaqcbcesdacb",
    "cdkgkaladaxakafccbbacwdacdkadnladaBpbbacedadacddakdBabcascyajabbhicfhgkbdlBwackihnBkcabafayabaka",
    "cibbfabikbeBfybBbababaoaBkrbebbfBwiaganBkBtdbfbbcbzbecqdnacbgapaBoabebbOnaebhabaebBpaebBhaebhaba",
    "ebpaCfaebCpeBdcBafDibgbYqaBccDlgsmtccisnnadoCabbgiackjckfkflekfDlgfbBiabeCsjBfdebddcaggbcBqbfkBs",
    "dBaflcCfbccCeabibachgmkfkfoDhBwjeciaBdimbBgdcfCeabbdabmBwhcepcCkeBrblkbmbgeagadbbeHkClKsbgbBmbgb",
    "iabababaBfbCbapaobgatbdajqyhBvqcbBbancBiCjFkdZqvluCRsbOncceBtabebbCegcoxihahahahahahahahBgDqBhBa",
    "aDllIgzqaBpfqaDidDxeBraDqaDiiBwaBRIrcCdiNktBvdbjBgbDcbghIntradaeazbfdkfCehCqjmxnaBmhzkblBefBwacd",
    "cbcanaldhazaBpfcbckdaiabbkbBgaBzabccbfbbabxrbikgbgbgihahaCidEnacaeckfQNslxdBxdDAuJMdOcbEcBlhlfeb",
    "ayafabacacaZaBfqpkvBjataedfaFfdGbbBfcgbgbgbdchahmcbmaBaatacapboBhEteddBtcDkancbBuBtFaBdcBxpBbdBk",
    "iBeeBmjBeaBldoBpGcbkfBkdBkdBohCakmapahacalapahaccCalLziwjixgaBqajCqgbbaBsaccbbxaCuhjBvtaceBhcBbe",
    "BbBlCedubBvoeadaBdjjgjgCmBfBlfmiCccBdbBbeBagelhDbCvCcBzmBzgBqlkfBmhyhcHzBfaBqcbbcpghjBmBohwkjvsd",
    "eBlBctxibaCcohdBeacbblBxdcbcaenzgkiBkebishBjadkCaibaidcaqauksaBcccdgacCkhabaeapalfBvadmkhcaibcbw",
    "ahacafcbabaebcbccblhBbkabbbaBmabacobaccbadacBmCehccbavabadBdBwacfbacabbbbehkGjBvacfebbbBbBjBzhca",
    "bbekkfnsBrabachcfkfuBbBbcbacdbixHcBvibbbDvDflibbbiacayafacfeadikCribBqheaeBabjBofcdiibfccBumbbjm",
    "CvgkDibcbabDjBinkfjaBmnbagjBdcBgybgbbbCwhacaBmubikfgacaBldcababgkfBsdkJltbeipaBkhccxDhboBymBJnDx",
    "EhafkHoDXjDvmBPgqgyFXreWlKDcBeldckCOrVxgBfakdDdakfBegbjBwgpjkahavetQpCgHpDnezbzBrCxeCeknClenfiKX",
    "yBoBgDsElMWqeahacaLfobBcdbbnehPgDKtEdencjgkbbbbFVjJtcQufxorDqEmChJmjBnbCiedvcgBedCjuCocbErululDj",
    "izFeDhaCtacbbbcbeamabahaCnaebiahaBcaeafabchaNcbLgbVqCceBxiaoahBRvBffgKaCkFpBtjhbkdcMhBerBsdkebRv",
    "BcdkIfBebldbHjBfadacahbficIphaeacapaHpbjBvCqgbdkdcBEeCqCxCjHleaBbacabbbakaeababfbdbababadacabbba",
    "babababacabbeahaeaeabakaredafarBzcKjBsdDwlpbpapaBljGsCdBdmBsdjgcngFxBLxcrcncIkfmdbomdCehkfBohBeb",
    "mdcnjBmNghobnclcCfabdqbmdkgFraDzBNoCLFcBfGMobIOcbLBloXyDQvUwCFxHHzeMOoBZLJx"]

/-- The digits of a number in base 16, small letters, no leading zeros. -/
def hexDigits (n : Nat) : List Char :=
  Nat.toDigits 16 n

/-- A character inside a quoted text. -/
def quotedChar (c : Char) : List Char :=
  if c == '\t' then ['\\', 't']
  else if c == '\r' then ['\\', 'r']
  else if c == '\n' then ['\\', 'n']
  else if c == '"' then ['\\', '"']
  else if c == '\\' then ['\\', '\\']
  else if c.toNat == 0 then ['\\', '0']
  else if c.toNat < 32 || c.toNat == 127 || (128 ≤ c.toNat && unseenTable.contains c.toNat) then
    ['\\', 'u', '\x7b'] ++ hexDigits c.toNat ++ ['\x7d']
  else [c]

/-- A text in double quotes, as messages show it, with the marks that would not be seen escaped. -/
def quoted (s : String) : String :=
  String.ofList (['"'] ++ s.toList.flatMap quotedChar ++ ['"'])

end VulnProbe.Text

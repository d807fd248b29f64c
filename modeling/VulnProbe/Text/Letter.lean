import VulnProbe.Text.Basic
import VulnProbe.Text.Table

namespace VulnProbe.Text

/-- The non-ASCII characters with the property Alphabetic. -/
def letterTable : RunSet := .ofTable
  ["GoakaeafwbBebRpeloehabaDiaBdrbbcdbagabcbabtbDebFiiGjbBlcagBoBnnbabbbbbaiBaedBdkfCdbgoDxbheheckcc",
    "aqBvnDwyBgjbeafxcstyhkfxbghaiBpkldggCxbpbceonsbhcbcvbgbadddhcbcbbaiaebbembkaecbfebcvbgbbbbbbeeeb",
    "cbeahdbarflcbibcbvbgbbbedibcbbdapdvdecbhcbcvbgbbbedhcbcbjbebbenaqbbfdcbddbbabbdbdcdleedcbcdagaBo",
    "mbcbwbpdhbcbcibbcbbcdBcdbhbcbwbjbedhbcbcibfcbdncmmbcbBochbcbcbafdhewfbcbrdxbibacgifbabhsbnCffgga",
    "BzbbabebxbabsbccebagaodBgaClhbBjesepbBjCpCcbaceqClkdcBlbafacBqbMubdcgbabdcBobdcBgbdcgbabdcobCebd",
    "cCoBlpqDhcfdXvcqbzfCwdkhtlumtmmbcbbmBzcsoaeaCpDkhBqfCrkBebleixBdcelBrezCcBbeCkctByaxblcBxBzbobhB",
    "zBpcdkBrbkoCcwckBjckfBqccBpdbfbbdafHjtBhlKrcfcBlcfchbabababBecCabgbadcbgddcfemfcbgEmanaqmDxaeacj",
    "badegabababdbkcdfeearBoBFhBzCRuIugddbmBlbafacCdhaqwjgbgbgbgbgbgbgbgbBfBvaSbcziheceeDhgcbDlbdfBqb",
    "DprBfBwpTsJTnCmBGUeCpBtcKidpkbuBufhdEiBnicDycDduubBgyBzmCpbaBsfdabckBgfBinBcdByblpaqpkebCcjnswdC",
    "qbabayccpcdlfcfcfjgbgbBqbngEsvQNrmweBwMNcObcEbBmgmeflbmbebabbbbbEdBhNysClcCbBolEmebFeBkzgzlDkdfc",
    "fcfccBjlbzbsbbbocnBiEsCrCaKhBcdBwBvBfnBdfBqfBdcBjehbeBqGbsBjeBjeBniBzmkbobgbbbkbobgbbdBzmLyjvkhy",
    "fbBpbiCrfcabBrbbdacwkwjBeCnsbbkvkzgzBmCdgbCmdbbfhbcbBcBqBcdBcBjhbBbBbCbkvksnrEgCuCdBynBynBnBiBbd",
    "afwJqBpbbdbqfBycdBckaivBqrBuuBbwjCrBrekCejanyxByrdiBidajClbdjbkabaBjrbBhcagdCkgbabdbobjhCexdbhcb",
    "cvbgbbbedhcbcbdagafgBcjbacabBlbjbacabdbbdabaBsCnbcbducBeCncbbaHcCbcgzfBiCkbadaChCbcaCtBacnvgHdCe",
    "DzClBfhcachbbbBdbbcbcdDphcBtcfbabbBbBycjrCtfasCuDzhDkBgBfibBsbgbaBxBdcvbnCvgbbbBrdabbbcbacbyfbbb",
    "BkbbbdbaxBrKawjqbBodcEhaDbBJlDyEgrHnDXkDspBPfrfzFXqfWkKDdBuCPdVwhBerDarBdsBvqdBfufsQqBsIdClBgycy",
    "BsCweCehqCmbbamgjKXxBpBfDtEkMWrdbgbbbLepaBdccaodiPfDKuEcfmdihjeaIWfDgbCsbbcacbcdblbabgbCmbdchbgb",
    "BbbdbebadgbNbcybybBebybBebybBebybBebybhCSyBegfIfgbqcgbbbefCjBhaEiBskgqaMjBdsBrSqBbIuBdcaHzBebvib",
    "IqgbdbbbobHoChCpdadaBUidbBabbbacabjbdbabagaeabababcbbbacabababababbbacdbgbdbdbabjbqfcbebqYezgzgz",
    "FMkCLFbBgGMncIObcLBkpXxDQwUvCFyHHyfMOn"]

/-- The non-ASCII characters whose general category is a number. -/
def numberTable : RunSet := .ofTable
  ["GwbfaccCDljFejHqjPwjEojefEejEojEojcfEgmEljigDzjEaghsEfjDsjEojCstKijCsjBBrtBHxcJfjgjwjLojEykGjjgj",
    "HajDijFejgjBOgadfgjHqByceBByChDavYgBdCBhaBDxaziocNfdFijBehboBgjBnoBRSajHgjMifFyjBmjHqjwjDijPqjBF",
    "McjSzBsmCerbNdBaBkdBdaiaFeeHujBKghzgBniCxewfGebcpcBtCmiCabBecCxeEahyhBpgMsfBwjgjKsBeGcjBqdEigFeB",
    "dEyjCijFojhtJrjNejEojOkjDyjgtCylQesDpjZmjDiBcItjCsjCcjNujDyuBPbEgXAfjDMcjDijFejbgUgjKcwNlcBJFljC",
    "EwtmtEeyBQrBxDNcjQgjTijJnjBBoiEyjBElCgbcbdCyBsboBLamEDfj"]

/-- A letter of any script. A blank is none, whatever the tables hold. -/
def isLetter (c : Char) : Bool :=
  if c.toNat < 128 then c.isAlpha else !isBlank c && letterTable.contains c.toNat

/-- A number character of any script. -/
def isNumber (c : Char) : Bool :=
  if c.toNat < 128 then c.isDigit else !isBlank c && numberTable.contains c.toNat

/-- A character that may continue a name. -/
def isNameTail (c : Char) : Bool :=
  isLetter c || isNumber c || c == '_'

/-- A character that may start a name. -/
def isNameHead (c : Char) : Bool :=
  isLetter c || c == '_'

end VulnProbe.Text

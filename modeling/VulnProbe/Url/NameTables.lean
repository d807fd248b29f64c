import VulnProbe.Text.Table

namespace VulnProbe.DomainName

open VulnProbe.Text (RunMap RunSet)

/-- The non-ASCII characters that a name may not keep. No number means that a name with the character
    is refused, a zero that the character is dropped; otherwise the numbers less one tell the
    characters that take its place, as differences. -/
def mappingTable : RunMap := .ofTable
  ["EyBfaaabJwhacKmBUvbabFqcababacLaBTzcbbJwaacLkBTjaabCHrcacLsBVzaabKmaabFubadKsXWzKmaadKuXWxKsaadK",
    "sXWvKqbwbCnbgbCnBhabdbabdbabdbabdbabdbabdbabdbabdbabdbabdbabdbabdbabdbabdbabdbabdbabdbabdbabdbab",
    "dbabdbabdbabdbabdbacPiBKhbacPmPkaacPoPmaabdbabdcabdbabdbabdbacQgKmaacQiKoaabdbabdbabdbabdbacBCpQ",
    "waabdbabdbabdbabdbabdbabdbabdbabdbabdbabdbabdbabdbabdbabdbabdbabdbabdbabdbabdbabdbabdbabdbabdbab",
    "JiaabdbabdbabdbabUqbabQfaabdbabdbabPxaabdbbbPvaabdcabGdaabPpaabPraabdbabPvaabPzbabQhaabQdaabddab",
    "QhaabQlbabQnaabdbabdbabdbabQvaabdbabQvcabdbabQvaabdbbbQtaabdbabdbabQxaabddabdhacBBcFkaacBBeFmaac",
    "BBgFoaacBAsBAwaacBAuBAyaacBAwBBaaacBAuBBcaacBAwBBeaacBAyBBgaabdbabdbabdbabdbabdbabdbabdbabdcabdb",
    "abdbabdbabdbabdbabdbabdbabdbabdcacBEoBCwaacBEqBCyaacBEsBDaaabdbabHmaabEiaabdbabdbabdbabdbabdbabd",
    "babdbabdbabdbabdbabdbabdbabdbabdbabdbabdbabdbabdbabdbabdbabKababdbabdbabdbabdbabdbabdbabdbabdbab",
    "dhabBFYlaabdbabMoaabBFYfcabdbabPaaabFjaabFnaabdbabdbabdbabdbabdDtabBSyaabFuaabBSyaabBSkaabEoaabE",
    "maabEcaabBSiaabBSgBfacCBoDpaacCBqDpaacCBsDtaacCBuFzaacCBwDbaacCByDpcabJqaabBWkaabBVyaabBVqaabGcD",
    "nbbEybabDsaacEqFeaabIzjabaBgabdbabdbabOkbabdbbaaacCOaExdabCMgaabIzadaaacCOuKcaadCOwJqKeaabCzaabC",
    "DkacbCxaaaaabEzaaaabbExbqbCnaaaaibCnBjabraabCiaabByaabBaaabmaabsaabBeaabBsbabdbabdbabdbabdbabdba",
    "bdbabdbabdbabdbabdbabdbabdbabEeaabDsaabDqbabEqaabEybabdbabEeaabdccbKaapbGfaBfbCnBwabdbabdbabdbab",
    "dbabdbabdbabdbabdbabdbabdbabdbabdbabdbabdbabdbabdbabdjabdbabdbabdbabdbabdbabdbabdbabdbabdbabdbab",
    "dbabdbabdbabdbabdbabdbabdbabdbabdbabdbabdbabdbabdbabdbabdbabdbabdbabBfaabdbabdbabdbabdbabdbabdba",
    "bdcabdbabdbabdbabdbabdbabdbabdbabdbabdbabdbabdbabdbabdbabdbabdbabdbabdbabdbabdbabdbabdbabdbabdba",
    "bdbabdbabdbabdbabdbabdbabdbabdbabdbabdbabdbabdbabdbabdbabdbabdbabdbabdbabdbabdbabdbabdbabdbabdba",
    "bdbaaaBlbDtabaBuacCqkdbadaaCdhaBbdagqawaaDkacGacaacDoeaacGfgaacDoiDwaaBwbaChbaDxnaChbaBxbapaaBcb",
    "abaaleaBggaCxaaEnacFeCeaacFeCgaacFeCiaacEwCkaacEoCmaacEoCoaacDyCqaacDsCsBkaaibacbawaahaabcaebajb",
    "acbaehabdaaacEoCmaacEoCoaaaaacDsCsebazbadaagdacbawaahaabacctaaabacfnaaacbabaafdacbadcabgaaacFeCg",
    "aacFeCiaacEwCkbaaaacDyCqagarjadaajaadaawaahaacaafbakaadaadbaboaebamgahaadaaibacbawaahaacaafbajba",
    "cbadgaddaaacEoCmaacEoCoaaafbasjacaagcadaaecacaabaaccaccadcamdafcadaaebabfabnaveanaadaaxaaqbajaad",
    "aaegacaadaacbaebakgawaadaaxaakaafbajaadaaegaceadaaebakaadlanaadaaBzaadaagdaqbaBaaadaascayaajaabb",
    "ahcabdagaabaaifakbadlaByacCbchdaBdBkacaabaafaayaabaamacCbckbafaabaahaakbaaacDuFeaacDwEqcBfamabcC",
    "caccIzeaaeaccIfeaccHveaccHleaccHbmacDeFxddacacecbacicaacErvaadEpmtaacEpraadEnqphacBgcraccCveaaea",
    "ccCbeaccBreaccBheaccxmacDeidaapaanBkaGeBlbVMvaaaaabVMvaeaaabVMvabaBsabCmDubbaIyaaebahaabaaebaBpa",
    "aebaBhaaebahaabaaebapaaCfaaebaCpbaBgcaBafaDibaafbqabaYqaaBccaDlgawiayiaulanaadaaclaCabbaBobakfak",
    "falebakfaDlgaBreaCsjaBfaamdamdabcaBqbafkaBsdaBafalcaCkbaCnaaBdbalfakfaobaBubamtaCzaaGkhaCicapcaB",
    "zabSKqaabSKoaabSJwabbSJsaabSJuaabSJgaabSHkaabEAIxaabdbeaaBqbIXkabaacbIXkihaBreaBsabVVaaabVKwaabV",
    "VcbbbVVcaabUSgahbVVcbabVVeaabUNsaabVVgaabVVeabbVVcaabVVaaabVWuabbUKuaabFgaabVXaabbVWyaabUKoabbUK",
    "maabVXcbabVWyaabVWwaabVFwaabVWwaabULqabbEuaabVXcabbVWwaabEqaabUKcaabVXaaabEgacbTLmabbTKeaabVYoaa",
    "bVXyabbVXuabbTMeaabTLeabbTKwnabTCwBiabURiaabWDmaabURgaabVSuaabUQwaabWDoaabUQuaabUQsaabUQmacbUQia",
    "abDkaabUMoaabUQiaabCwaabUMqaabUQgaabUQkadbUQiaabUQeabbUPmaabVGeabbUPeaabMaabbUPgaabWEcacbUPcaabT",
    "SoCmabdbabdbabdbabdbabdbabdbabdbabdbabdbabdbabdbabdbabdbabdbabdbabdbabdbabdbabdbabdbabdbabdbabdb",
    "abdbabdbabdbabdbabdbabdbabdbabdbabdbabdbabdbabdbabdbabdbabdbabdbabdbabdbabdbabdbabdbabdbabdbabdb",
    "abdbabdbabdbabdbabdbabdbabdbabdbabdbabdbabdbabdbabdbabdbabdbabdbabdbabdbabdbabdbabdbabdbabdbabdb",
    "abdbabdbabdbabdfacWXeVCqaabEmcabWNubabdbabdbabdbabdbabdbabdbabdbabdbabdbabdbabdbabdbabdbabdbabdb",
    "abdbabdbabdbabdbabdbabdbabdbabdbabdbabdbabdbabdbabdbabdbabdbabdbabdbabdbabdbabdbabdbabdbabdbabdb",
    "abdbabdbabdbabdbabdbabdbabdbabdbabdjhbqgbaafbqabaihbqihbqgbaafbqabaiaaaabqaaaaabqaaaaabqaaaaabqi",
    "hbqbabVAwbabVAybabVBababVBcbabUZababUZcbabUZeabaaacJwVBaaacJwVBcaacJwVBeaacJwVBgaacJwVBiaacJwVBk",
    "aacJwVBmaacJwVBoaacKmVBqaacKmVBsaacKmVBuaacKmVBwaacKmVByaacKmVCaaacKmVCcaacKmVCeaacIqVCgaacIqVCi",
    "aacIqVCkaacIqVCmaacIqVCoaacIqVCqaacIqVCsaacIqVCuaacJgVCwaacJgVCyaacJgVDaaacJgVDcaacJgVDeaacJgVDg",
    "aacJgVDiaacJgVDkaacEyVDmaacEyVDoaacEyVDqaacEyVDsaacEyVDuaacEyVDwaacEyVDyaacEyVEaaacFoVEcaacFoVEe",
    "aacFoVEgaacFoVEiaacFoVEkaacFoVEmaacFoVEoaacFoVEqcacFcVEwaacVFoVEyaacVGaVFaaaabaccVFgabbqaabFsaab",
    "VGoaacVGgVFqaacXYoVSmaabVFuaacXYsVSqaacXYuVPcaadXYwVTqVPeaacGaVGcaacVGiVGeaacVHcVGgaaabaccVGmaab",
    "GqaabVHoaabGqaabVHqaacVHaVGwaadXZuVTsVVeaadXZwVTuVVeaadXZyVTwVQgdabVKoabacbbqaabHsaabVIuaaaaadYB",
    "aVUwVWkaadYBcVUyVWkaadYBeVVaVRmdabVJiebbqaabIqaabVHsaaboaadYCgVXaVXqaadYCiVXcVXqaabXXmabaaacJcVJ",
    "uaacVIqVJwaacVIiVJyaaabaccVKeaabJwaabVIwaabJsaabVIwaacVJiVKoaacYDmVYuaacYDoVXkaaaaabYDsaabYDuaab",
    "YDwaabYDyaabYEaaabYEcaabYEeaabYEgaabYEiaabYEkaabYEmaabacbababcfacYFmVWymcabgaaabYHidacccaadeeeba",
    "cccaadeeeeacYIgYIgbacYImWDmiacYGuYGuaacYGwYJeaacYJgYGynaeCwCwCwCwhabYLaaebaaeaafbaaabYLcaabYGuab",
    "aafbYLcaabYMgaabBFjaabYLaabbYMsaabYHmajbYMiaabYNmaabBEdaabYMgabbYNyaaaaabYJuaabYJoaabYIwaabYIgaa",
    "bWXiaabYJqadbYJmaabYJkabbYJgacaiacYKiYKgznaBhoaaadYSkYWgYSgaadYSmYWiYRcaabYSkaacYMoYSmbadYSqYWqY",
    "RsaadYSsYWsYRiaabXGabacYNaYSsabbYSsaabYSuaabYSwaabYSyaabYEiaabYTaaabYTcaabYSyaabYTababYTaaacYTcY",
    "TaccbYTeaabYTgaabYTicacYTmYTyaadYTmYUqYUcaacYToYUcbabYTgbabWGgbabYTobabYUwaabYLoabbYVsbabYVsabbY",
    "VuaabCfaabYVkaabYViadbUTmaabYWebadYWoYWyYVeaabWIqaabWJsaabWJuaabWIwaabQdeabYXmabbYXoabbYXigadZCg",
    "UqZBuaadZCiUsZBsaaeZCkUuZCkZCmaadZCmUwZCiaadZCmUyZCkaadZCqVaZCiaadZCqVcZCkaadZCqVeZCmaadZCqVgZCo",
    "aadZCyViZCoaadZCsVkZCqaadZDcVmZCoaadZDaVoZCqaadZCyVqZCsaadZCwVsZCuaacZDkVuaabYZeaacYZgYZgaadYZiY",
    "ZiYZiaacYZkYYkaabYYmaacYYoYZoaadYYqYZqYZqaaeYYsYZsYZsYZsaacYZuYYqaabYYsaacYYuYZyaadYYwZAaZAaaabY",
    "ZwabbZAqaabZAaaabZAkaacZAmZAmaadZAoZAoZAoaacZAqYZqaabYZsaacYZuZAuaadYZwZAwZAwaaeYZyZAyZAyZAyaacZ",
    "BaYZwaabYZyaacZAaZBeaadZAcZBgZBgaabZBcabbZBwaabZBgdabdfadZGsZaZGmcdaGaacccaadeeebacccaadeeeJobbJ",
    "TnJvvaluaaibBBKoaacBBLgBBLiaacBBLiBBLiaacBBLkBBLiaacBBLmBBLiaacBBLoBBLiaacBBLqBBLiaacBBLsBBLiaac",
    "BBLuBBLiaacBBLwBBLiaacBBLyBBLiaacBBLyBBMcaadBBMuBBMcBBMsaadBBMwBBMcBBMuaadBBMyBBMcBBMwaadBBNaBBM",
    "cBBMyaadBBNcBBMcBBNaaadBBNeBBMcBBNcaadBBNgBBMcBBNeaadBBNiBBMcBBNgaadBBNkBBMcBBNiaaeBBNmBBMuBBMwB",
    "BNkaaeBBNoBBMwBBMwBBNmaaeBBNqBBMyBBMwBBNoaaeBBNsBBNaBBMwBBNqaaeBBNuBBNcBBMwBBNsaaeBBNwBBNeBBMwBB",
    "NuaaeBBNyBBNgBBMwBBNwaaeBBOaBBNiBBMwBBNyaaeBBOcBBNkBBMwBBOaaaeBBOeBBNmBBMwBBOcaaeBBOgBBNmBBNqBBO",
    "eataaadBBPwBBLmBBPuaadBBPyBBLmBBPwaadBBQaBBLmBBPyaadBBQcBBLmBBQaaadBBQeBBLmBBQcaadBBQgBBLmBBQeaa",
    "dBBQiBBLmBBQgaadBBQkBBLmBBQiaadBBQmBBLmBBQkaadBBQoBBLmBBQmaadBBQqBBLmBBQoaadBBQsBBLmBBQqaadBBQuB",
    "BLmBBQsaadBBQwBBLmBBQuaadBBQyBBLmBBQwaadBBRaBBLmBBQyaadBBRcBBLmBBRaaadBBReBBLmBBRcaadBBRgBBLmBBR",
    "eaadBBRiBBLmBBRgaadBBRkBBLmBBRiaadBBRmBBLmBBRkaadBBRoBBLmBBRmaadBBRqBBLmBBRoaadBBRsBBLmBBRqaadBB",
    "RuBBLmBBRsazbBBNmazbBBPmaabBBVgBYnaeFZeFZeFZeFZeDzadBFZoBFZoBFZiaacBFZkBFZkaadBFZmBFZmBFZmDxacdB",
    "EAqFvbaFiBvbDtBwabdbabBFUkaabLHkaabBFTecabdbabdbabdbabBFXgaabBFUwaabBFXmaabBFXkbabdcabdgabBHJwaa",
    "bBHJaabbBFZyaabdbabdbabdbabdbabdbabdbabdbabdbabdbabdbabdbabdbabdbabdbabdbabdbabdbabdbabdbabdbabd",
    "babdbabdbabdbabdbabdbabdbabdbabdbabdbabdbabdbabdbabdbabdbabdbabdbabdbabdbabdbabdbabdbabdbabdbabd",
    "babdbabdbabdbabdbabdiabdbabdeabdbeaBtaabeabbaCegaaabBcbnayiahaahaahaahaahaahaahaahaaEwBhaBaaaeab",
    "BUIvDfabDHIvalaaabXMnaabXPnaabXQnaabXRdaabXTbaabXWjaabXWvaabXYhaabYAfaabZXtaabBAApaabBAAzaabBACr",
    "aabBAEdaabBAFraabBAJraabBALfaabBALzaabBAXvaabBBEzaabBBHbaabBBHjaabBBJpaabBBKfaabBBMfaabBBNdaabBB",
    "OzaabBBSxaabBBUfaabBBWfaabBEChaabBEHtaabBFRbaabBFStaabBFThaabBFUbaabBFVjaabBGBdaabBHLtaabBHPjaab",
    "BHYnaabBIAfaabBIBpaabBIDfaabBIHhaabBIHlaabBJJfaabBJJxaabBJKtaabBJLraabBJUnaabBJVbaabBJVjaabBKEha",
    "abBKEzaabBKFxaabBKGlaabBKLbaabBKMhaabBKNpaabBKTraabBMMhaabBMPtaabBMRhaabBOWdaabBOWlaabBPCtaabBPD",
    "xaabBPEvaabBPGjaabBPJhaabBPJpaabBQEbaabBQFvaabBQIfaabBTIhaabBTNhaabBTOzaabBTTjaabBTVdaabBTVtaabB",
    "TWfaabBUAdaabBUAlaabBUCvaabBXHtaabBYQbaabBYQxaabBYRfaabBYRlaabBYRzaabBYThaabBYTjaabBYZnaabBZQbaa",
    "bBZQjaabCAQjaabCARbaabCAUvaabCAVhaabCAVxaabCAWlaabCBDjaabCBDvaabCBVhaabCBVtaabCBZlaabCCAraabCCEf",
    "aabCCWjaabCCWvaabCCYbaabCDXdaabCEGtaabCEHdaabCEVbaabCFBraabCFFdaabCGIdaabCGShaabCIKjaabCIMjaabCI",
    "QraabCIUnaabCIZraabCJAlaabCJAvaabCJDhaabCJJbaabCJJtaabCKKhaabCKKtaabCKLjaabCKLzaabCKNdaabCKOfaab",
    "CKOlaabCKUlaabCKUraabCKVbaabCNSlaabCNUraabCPEraabCPFnaabCPHfaabCQCxaabCQDvaabCQJfaabCQMraabCSEfa",
    "abCSFhaabCSGjaabCSIzaabCSLtaabCTAzaabCTBvaabCTGxaabCTZxaabCUCfaabCUSfaabCUTtaabCUUbaabCVKxaabCVY",
    "zaabCWInaabCWIxaabCWJfaabCZCzaabCZDpaabCZPnaabDABhaabDABlaabDAEzaabDAMzaabDANxaabDAOdaabDAOpaabD",
    "AWbaabDAYpaabDAYzaabDAZzaabDBMtaabDBQpaabDBQvaabDCEvaabDCEzaabDCGjaabDCZraabDDDhaabDDDtaabDDJbaa",
    "bDDJtaabDDJxaabDDKpaabDDMvaabDERdaabDFVvaabDFWnaabDFZjaabDGAzaabDGBnaabDGCfaabDGClaabDGFlaabDGFr",
    "aabDGGxaabDGHfaabDGIdaabDGKdaabDGLfaabDGLtaabDGQfaabDGRhaabDGRnaBpaaabBKGubabBKFwBzabCubabBANzab",
    "bBAOdfaaDibacacBKSseaacBKSuecacBuBqDracFwEgaeaBraaabbYJyaabXXaaabYKaabbXXaacbYKeafbXXcaabYJcacbY",
    "KsaabYIwajbYKuaubYEuaabaabbYMkabbXYuaabXYoaabXYmaabXYeaabXXyaabXXwaabYMmaabXXsaabXXqabbYMqaabYMo",
    "abbYMmaabYMgaabYMeaebYMcaabYLyaabYLsaabYLaaabYKoaabYKgabbXXqacbYJqabbYGkaabYGgabbYFqaabYFoaabYEw",
    "aabYEsaaacabVNxaabVYpaabVOlaabBCGbaabVOjaabVQzaabVOhaabBZFfaabVUdaabVPdaabVNfaabBDYvaabBCLxaabWB",
    "fCsjaqadBLToYZwBLTmaadBLTqYZuBLToaadBLTsYZuBLTqaadBLTuYZsBLTsaadBLTwYZsBLTuaadBLTyYZsBLTwaadBLUa",
    "YZqBLTyaadBLUcYZoBLUaaadBLUeYZoBLUcaadBLUgYZmBLUeaadBLUiYZmBLUgaadBLUkYZmBLUiaadBLUmYZmBLUkaadBL",
    "UoYZmBLUmaadBLUqDOJlBLUoaadBLUsDRVvBLUqaadBLUuDTOzBLUsaadBLUwDXBjBLUuaadBLUyDYUnBLUwaadBLVaEANrB",
    "LUyaadBLVcEEAbBLVaaadBLVeEHMlBLVcaadBLVgEJFpBLVeaadBLViEMRzBLVgaadBLVkEOLdBLViaadBLVmEQEhBLVkaad",
    "BLVoERXlBLVmaadBLVqETQpBLVoaadBLVsEKHdBLVqaaeBLVuEIDbEJNzBLVsaaeBLVwEICzEUSjBLVuaaaaadBLWaVCzBLV",
    "yaadBLWcVNrBLWaaadBLWeVDnBLWcaadBLWgBBVdBLWeaadBLWiVObBLWgaadBLWkXSbBLWiaadBLWmVCtBLWkaadBLWoXRt",
    "BLWmaadBLWqVJnBLWoaadBLWsZBtBLWqaadBLWuBOBdBLWsaadBLWwBVDxBLWuaadBLWyBRYvBLWwaadBLXaBODjBLWyaadB",
    "LXcCULjBLXaaadBLXeBBZlBLXcaadBLXgBNEhBLXeaadBLXiBOWxBLXgaadBLXkBOApBLXiaadBLXmCBVbBLXkaadBLXoZQp",
    "BLXmaadBLXqBWRpBLXoaadBLXsCQMpBLXqaadBLXuCBXdBLXsaadBLXwYPtBLXuaadBLXyVSnBLXwaadBLYaZYrBLXyaadBL",
    "YcBFEtBLYaaadBLYeBZZzBLYcaadBLYgVUnBLYeaadBLYiCQOxBLYgaadBLYkZBnBLYiaadBLYmCBXrBLYkaadBLYoVVlBLY",
    "maadBLYqCIIrBLYoaadBLYsCIJhBLYqaabBAOdaabBHMtaabBMVjaabCDNdiadBLUeBLTwBLVaaacBLZaBLZcaacBLZcBLZc",
    "aacBLZeBLZcaacBLZgBLZcaacBLZiBLZcaacBLZkBLZcaacBLZmBLZcaacBLZoBLZcaacBLZqBLZcaacBLZqBLZwaacBLZsB",
    "LZwaacBLZuBLZwaacBLZwBLZwaacBLZyBLZwaacBMAaBLZwaabZHgabbZHeacbZHcaabZHaabbZGyaebZGwaabDOCbaabDRO",
    "laabDTHpaabDWTzaabDYNdaabEAGhaabEDSraabEHFbaabEIYfaabEMKpaabEODtaabEPWxaabERQbaabETJfaacEMLlDOSf",
    "aacEJZrEITjaabEIGjbabUVpaabVGhaabUWdaabBBNtaabVGraabXKraabUVjaabXKjaabVCdaabYUjaabBNTtaabBUWnaab",
    "BRRlaabBNVzaabCUDzaabBBSbaabBMWxaabBOPnaabBNTfaabCBNraabZJfaabBWKfaabCQFfaabCBPtaabYIjaabCBZbaab",
    "BYLvaabBDKzaabCTBfaabXDraabYWjaabBSDvaabCYUtaabVObaabXLvaabBQZpaabUTpaabUWfaabUTnaabBGTraabZFraa",
    "bYRlaabBEZzaabBEWdaabBZRjaabVLxaabCQGhaabYSxaabBDCraacBMGiBMGcaacBMGkBMGcaacBMGmBMGcaacBMGoBMGca",
    "acBMGoBMGwaacBMGqBMGwaacBMGsBMGwaacBMGuBMGwaacBMGwBMGwaacBMGyBMGwaacBMHaBMGwaacBMHcBMGwaacBMHeBM",
    "GwaacBMHgBMGwaacBMHgBMHqaacBMHqBNPpaacBMHqBNPnaacBMHqBNPlaacBMHqBNPjaacBMHqBNPhaacBMHqBNPfaacBMH",
    "qBNPdaacBMHqBNPbaacBMHqBNOzaadBMIiBMIkBNOxaadBMIkBMIkBNOvaadBMImBMIkBNOtaacBMEiBMEkaadBMEqBMDqBM",
    "EmaacBMEsBMDkaadBMEgBMDqBMEwaabBQyaabBQwaabBQuaabBQsabbBQqaabBQoaabBQmaabBQkaabBQiaabBQgaabBQeaa",
    "bBQcaabBQaaabBPyaabBPwaabBPuaabBPqaabBPoaabBPmafbBPkaabBPgaabBPcaabBOyaabBOuaebBOqaabBOoaabBOmaf",
    "bBOkadbBOiaacVDjZKtaaeBUqBRaBNsBRsaaeBUsBPcBQuBUuaaeBUuBOoBQmBUuaadBUwBNyBPgaaeBUuBRuBOsBTwaadBU",
    "wBOuBSqaadBUuBUoBOwaafBUsBTkBUeBOgBSeaaeBUuBOiBUoBOiaadBUsBPcBToaadBUuBOmBQqaadBUuBViBPyaaeBUwBQ",
    "cBTaBSqaaeBUyBPwBQcBOsaadBUyBPyBPmaadBVaBPoBReaacBUyBVcaadBVaBSuBPaaaeBVeBQwBQmBPcaaeBVeBQmBTuBP",
    "eaacBViBQkaafBVkBQmBVeBQuBRmaagBVmBQoBRmBPkBTkBQsaafBVoBQqBQmBTwBTmaadBVkBRaBRsaafBVmBRcBRuBTqBQ",
    "iaafBVqBRaBUqBWmBQwaaeBVsBQyBPuBTkaadBVqBPwBVaaadBVoBRgBTuaadBVqBQaBSkaaeBVoBWwBWaBRkaafBVqBQwBU",
    "sBQeBSiaaeBVoBRqBQyBWcaadBViBRaBUwaadBVkBRcBUkaadBVcBQmBVqaacBUqBVwaacBUoBRyaacBUsBRkaacBUqBUiaa",
    "dBUkBVgBUwaadBUkBXsBVgaafBUiBRaBWaBRsBVaaadBUkBRcBVkaaeBUoBReBSkBSmaafBUiBYeBWkBVgBSoaadBUkBXgBS",
    "qaacBUmBXaaacBUqBSuaafBUoBYoBTaBVyBVmaaeBUqBYmBRqBVqaafBUqBWcBXaBYgBTaaadBUuBTgBSmaafBUqBXuBWoBR",
    "wBTeaacBUoBWuaadBUqBVuBVgaadBUwBTkBWkaadBUuBSwBXiaadBUwBSgBXmaadBVaBSiBXaaaeBUuBZeBTcBWkaadBUyBT",
    "uBWmaacBVcBTgaadBVaBTiBWoaadBVgBSsBUaaadBViBSuBTmaaeBVeBZqBYuBUaaadBVgBZsBUgaadBViBXkBWmaadBVkBU",
    "kBZaaafBVmBTwBYmBUuBTwaaeBVmBZeBUkBTyaacBVoBUsaafBVqBUuBWuBTkBUsaacBVoBZqaaeBVqBZsBXoBUgaaeBVsBT",
    "qBXqBUyaadBVoBTsBXqaadBVqBTuBVcaadBVoCAuBUoaaeBViBYiBXyBVgaacBVkBVmaadBVkBXeBUcaaeBVmBUeBXcBVmaa",
    "cBVmBWkaafBVoBVaBYiCAaBVaaadBVkBYuBYkaacBMTkBUMtaacBMTkBUMraacBMTkBUMpaacBMTkBUMnaacBMTkBUMlaacB",
    "MTkBUMjaacBMTkBUMhaacBMTkBUMfaacBMTkBUMdaacBMTkBUMbaadBMUcBMUeBULzaadBMUeBMUeBULxaadBMUgBMUeBULv",
    "aadBMUiBMUeBULtaadBMUkBMUeBULraadBMUmBMUeBULpaadBMUoBMUeBULnaadBMUqBMUeBULlaadBMUsBMUeBULjaadBMU",
    "uBMUeBULhaadBMUuBMUyBULfaadBMUwBMUyBULdaadBMUyBMUyBULbaadBMVaBMUyBUKzaadBMVcBMUyBUKxaadBMRaBMQkB",
    "MRoaacBMRkBMRqaacBMRsBMQeaadBMRsBMRuBMQmaacBMQuBMQgaacBMQuBMRuaacBMRuBMRcaadBMRwBMReBMVsaadBMRyB",
    "MRgBMVsaacBMRqBMQsaacBGOfBJHjaacBMKhZBdaacBCNtBQIvaacBMHtBRJfaaeBNXfBGZxUXrCAVnaacBMRoBMSsaacBMR",
    "uBMSuaacBKEuBMSwaacBMSaBMSyaacBMSgBMTaaacBMSiBMTaaacBMSgBMTcaacBMSuBMTeaadBMTeBMTiBMSmaaeBMSqBMT",
    "gBMTkBMSoaacBMSiBMTcaacBMSoBMTeaacBKFoBMTgaacBKFqBMTgaacBMSwBMTiaacBMTcBMTkaacBMTkBMSaaadBMTgBMT",
    "mBMScaadBMTeBMToBMSeaadBMTsBMTqBMSgaadBMSuBMTsBMSiaacBKGgBMTmaacBMTmBMToaacBMUgBMTqaacBMTuBMTsaa",
    "cBMUgBMTsaacBMTsBMTuaacBKGsBMTwaacBMTyBMTyaacBMUuBMUaaacBMUgBMUcaadBMUeBMUeBMYsaadBMVaBMUgBMYuaa",
    "cBMUiBMYwaadBMUoBMUkBMYyaadBMUmBMUmBMYyaadBMViBMUoBMZaaacBMUqBMZcaadBMUwBMUsBMZeaadBMUuNIaBMUiaa",
    "eBMUwNIcBMUkBMZkaacBMUsBMVwaadBMVeBMUuBMVyaadBMVcBMUwBMWaaadBMVqBMUyBMWcaadBMUwBMWeBMVyaafBMUyBM",
    "WgBMWaNIoBMUwaagBMVaBMWiBMWcNIqBMUyBMZyaacBMVgBMVaaacBMVmBMVcaacBKImBMVeaacBMVsBMVgaacBMVoBMVcaa",
    "cBMVuBMVeaacBKIuBMVgaacBMWaBMViaacBMWgBMVkaacBMWeBMVmaacBMWaBMVmaacBMWgBMVoaacBKJgBMVqaacBMWmBMV",
    "saacBMWsBMVuaacBMWqBMVwaacBMWwBKIoaacBMWuBKIqaaaaacBMXuBMWqaacBMXuBMXuaacBMXwBMXuaaeBMXyNKkBMXiB",
    "MXqaaaaacBMYaBMYeaacBMXwBMWmaacBMXwBMYkaacBMXyBMXiaacBMXyBMXoaacBMXwBMXwaacBMXyBMXuaacBMYaBMXiaa",
    "cBMYaBMXyaacBMYcBMXyaadBMYeBMXyBMYoaacBMYgBMXiaacBMYgBMZcaadBMYiBMYqBMYkaadBMYkBMYgBMYmaacBMYgBM",
    "YwaaaaadBMYkBMYkBMYqaacBMYmBMYiaacBMYiBMYkaacBMYkBMYeaacBMYeBMZuaadBMYiNMgBMZaaadBNAaNMiBMZcaacB",
    "NDuBLXbaacBNDuBLWzaacBNDuBLWxaacBNDuBLWvaacBNDuBLWtaacBNDuBLWraacBNDuBLWpaacBNDuBLWnaacBNDuBLWla",
    "adBNEmBNEoBLWjaadBNEoBNEoBLWhaadBNEqBNEoBLWfaadBNEsBNEoBLWdaadBNEuBNEoBLWbaadBNEwBNEoBLVzaadBNEy",
    "BNEoBLVxaadBNFaBNEoBLVvaadBNFcBNEoBLVtaadBNFeBNEoBLVraadBNFeBNFiBLVpaadBNFgBNFiBLVnaadBNFiBNFiBL",
    "VlaadBNFkBNFiBLVjaadBNFmBNFiBLVhaadBNFoBNFiBLVfaadBNFqBNFiBLVdaadBNFsBNFiBLVbaadBNFuBNFiBLUzaadB",
    "NFwBNFiBLUxaadBNFwBNGcBLUvaadBNFyBNGcBLUtaadBNCaBNCmBNBqBQQfcaCdiaNktaaabdbabdbabdbabdbabdbabdba",
    "bdbabdbabdbabdbabdbabdbabdbabdbabdbabdbabdbabdbabdbabdbabdbabdbabdtabdbabdbabdbabdbabdbabdbabdba",
    "bdbabdbabdbabdbabdbabdbabdbabESYmaabESYkDmhaBiabdbabdbabdbabdbabdbabdbabddabdbabdbabdbabdbabdbab",
    "dbabdbabdbabdbabdbabdbabdbabdbabdbabdbabdbabdbabdbabdbabdbabdbabdbabdbabdbabdbabdbabdbabdbabdbab",
    "dbabdbabciabdbabdbabEANwaabdbabdbabdbabdbabdeabdbabEVCicabdbabddabdbabdbabdbabdbabdbabdbabdbabdb",
    "abdbabdbabEVEmaabEVFiaabEVFaaabEVEgaabEVEmbabEVAqaabEVCmaabEVAwaabCTlaabdbabdbabdbabdbabdbabdbab",
    "dbabdbabDsaabEVEkaabEARwaabdbabdbabEVHeaabdbabdbabdbabdbabdbabdbabdbabdbabEVXyataaabEWWiaabEWXqa",
    "abEWXmaabEWWsaabdcabEWJaaabEWFsBzcakfaCehaCshamfaEmkaBecaDaaaldaBhaaCdiaobakbaDzxaBcjagbagbagiah",
    "aahaaBsabDEwaabCyaabEXZaaabBajabEXXgcdaaDbbEKZoBubakfaQNslaxdaBxMNbaaabDEIyaabEGQcaabDCLsaabDDZi",
    "aabEARmaabEZJyaabEVBuaabCPSwaabCPSyaabEQZgaabDAEsaabETWaaabERAeaabEKLiaabDUYsaabDOBkaabDIZaaabDH",
    "VyaabDGXoaabDBEeaabEEJkaabECAmaabDZEwaabDWXmaabDKNeaabDANuaabCUByaabEZFmaabEVMcaabEDQgaabDYGsaab",
    "DJBoaabCQYeaabEOAkaabDZYcaabDJJgaabDGQqaabEJWyaabDMJkaabDHPwaabEMXwaabEGQmaabEBWaaabDXQkaabDBBga",
    "abEYMwaabEWVuaabEVZeaabEIKuaabEDVoaabDYJcaabDURwaabDNUsaabDJGgaabDIZsaabDDGqaabCWGiaabCTAyaabCRC",
    "yaabDTMcaabDSTmaabDPQgaabDKZaaabCZLeaabCQTeaabDFQkaabERMkaabEMVmaabDQPkaabDNMkaabDYEiaabDTIgaabD",
    "EFcaabCWMeaabERNoaabEOVyaabEEMkaabEBQcaabEASkaabDQAiaabDPGcaabCXAaaabEWCuaabDNMmaabEWVwaabEWXeaa",
    "bDSJkaabDPPyaabDKXyaabCWXkaabDFFgaabEKAqaabEEOyaabDFPmaabEZQgaabEPGyaabEMCyaabDXJwaabDVYiaabEVYu",
    "aabDTGsaabEYMuaabEMLmaabEZUiaabECMyaabEIBiaabDQDkaabEVMeaabERZoaabDUUiaabDKSwaabDFXiaabEDIqaabDC",
    "CoaabECSyaabEJYwaabDLUsaabEJMoaabDWAsaabEZJeaabEXHmaabEXAeaabEFUwaabDQJgaabDMEkaabDFViaabDANuaab",
    "EWDoaabEVEaaabERFwaabENCeaabEHXkaabEAEeaabDTFqaabCXQgaabCUBaaabCQWwaabCQSsaabEWLiaabEHEgaabEDPya",
    "abDCKsaabENMiaabELDeaabEKUqaabEIVmaabEAWcaabDZFwaabDWTyaabDSUoaabDPQqaabDNTwaabDCQeaabDKJmaabDBW",
    "waabCZMwaabEWWwaabEWMeaabEUWwaabDZQsaabDHMqaabDGBeaabENHiaabEMKiaabEJTaaabEDNqaabDQZoaabDXQqaabE",
    "ZIuaabETFsaabEPMsaabEOCwaabEMIaaabDXMkaabDWYkaabDOMcaabDNYyaabDAJyaabCWUiaabCWOcaabCVYeaabEYWyaa",
    "bDSZgaabDAUgaabCWZoaabELTwaabEZRkaabEXXqaabEPNoaabEPHkaabEIFiaabEEWoaabDYZcaabDVPmaabDKLoaabDBTe",
    "aabCQIoaabEHNmaabCXLgaabEWRkaabEGVaaabEGLwaabECLmaabEBKwaabDXIcaabDWIiaabDTZyaabDQMoaabCVUyaabEX",
    "OaaabEKWeaabCXGoaabEYNaaabEOSmaabEBZkaabDCUsaabEMWoaabELOsaabEGKkaabDXTgaabCXGeaabEXAmaabEVPeaab",
    "EPHcaabEHYoaabEHAkaabEFZwaabECUmaabDXKeaabDVZqaabDOSwaabDHRcaabDHPuaabDAWgaabCXAeaabEWGeaabEBLca",
    "abEVPgaabDZCmaabDWZuaabDJVoaabCXFoaabCSXiaabCREmaabEGWgaabECEeaabDMYeaabDSIiaabDSBwaabDQZmaabDYK",
    "yaabEABkaabDFUuaabEZScaabDLZcaabEXBuaabEXFuaabENRiaabEKNeaabDQVaaabEQBeaabECSsaabEHPcaabDCXcaabD",
    "IDsaabCXOaaabDHFiaabENOqaabEXWaaabEULmcabESMmbabEHUycabEXKoaabDYEyaabDVLqaabDTPoaabDTNaaabDTMoaa",
    "bDTJkaabCWVcaabDQYwaabDORybabDJXkbabDGFccabDCFyaabDBQwdabCVQsaabCVPuaabCVMmaabCSBaaabDBTwaabCXIu",
    "aabEZDsaabEYFsaabEXXyaabEWUuaabEWSuaabEWKmaabEURiaabEUJiaabEUBwaabESRqaabESJsaabEPOgaabEPNoaabEM",
    "JyaabELTsaabELQwaabELJgaabEIVcaabEIJwaabEHWmaabEGKcaabECQuaabECEiaabEBKcaabDZQyaabDZCmaabDXPwaab",
    "DUGqaabDTTkaabDTSqaabDTSuaabDTSgaabDTRwaabDTRkabbDTNuaabDTAeaabDSVgaabDRWuaabDQFmaabDQDyaabDPZsa",
    "abDPCiaabDORcaabDNFqaabDMUyaabDMVaaabDLKiaabDHVkaabDHLeaabDGJiaabDGFcaabDEZqaabDEVqaabDCUyaabDCL",
    "aaabCXJuaabCWOaaabCWJmaabEMPwaabJOVdaabDNDqabaaabFAMuaabEXUuaabEYAuaabEZMkaabEYDqaabEXZeaabEXAca",
    "abEWWgaabEUWkaabEVCaaabEUWwaabEURiaabESUuaabESOaaabESCyaabESBuaabERHcaabEQRyaabENXwaabENXkaabENM",
    "kaabENHgaabEMKiaabEMBiaabEMGuaabELWoaabEMAeaabELPaaabELKaaabEKFiaabEJYqaabEJUoaabEJAqaabEIEsaabE",
    "HSgaabEHSaaabEHNoaabEEKeaabEEFgaabEDBgaabEBVuaabEBXcaabEBQmaabEAXeaabDZXkaabDVEyaabDZIgaabDYYyaa",
    "bDYPoaabDXQmaabDXFcaabDXBcaabDWJuaabDWJsaabDVWqaabDVVkaabDVToaabDVNaaabDVNwaabDUJmaabDSYgaabDSDm",
    "aabDRPeaabDQYaaabDQMiaabDPNaaabDOXuaabDMKwaabDLYwaabDJHgaabDHYgaabDHTaaabDHRwaabDGVcaabDGQuaabDG",
    "UiaabDGQgaabDGQoaabDGRyaabDGMeaabDGGaaabDFCsaabDDLsaabDCNqaabDBRaaabDBAcaabCXYyaabCXRcaabCXIiaab",
    "CWYeaabCWVmaabCWUqaabCWRaaabCUNeaabCRBwaabIUIxaabIUIjaabJDCbaabFOViaabFLLeaabFLIsaabKADlaabKICra",
    "abLHWjaabCRJmaabCRDuaBlaaacHHUyHHUyaacHHVaHHUuaacHHVcHHUqaadHHVeHHVeHHUyaadHHVgHHVgHHUuaacHHUiHH",
    "UgaacHHUkHHUialaaacHEAwHEAsaacHEAyHECcaacHEBaHEBsaacHEAiHEAyaacHEBeHEBsaeaaacHDTwHDWsbacHDScHDWq",
    "aabHDTkaabHDUwabbHDUsacbHDUgaabHDTmaabHDTkaabHICqaacHDTqHDWsaacHDTsHDWsaadHDTuHDXgHDWwaadHDTwHDX",
    "iHDWwaacHDVwHDXuaacHDVyHDXuaacHDWaHDXoaacHDWaHDXqaacHDWaHDXsaacHDWaHDXuaacHDWaHDXwaacHDWaHDXyaac",
    "HDWaHDYaaaaaacHDWaHDYeaacHDWaHDYgaacHDWaHDYiaacHDWaHDYkaacHDWaHDYmaaaaacHDWaHDYqaaaaacHDWaHDYuaa",
    "cHDWaHDYwaaaaacHDWaHDZaaacHDWaHDZcaaaaacHDWaHDZgaacHDWaHDZiaacHDWaHDZkaacHDWaHDZmaacHDWaHDZoaacH",
    "DXsHDZwaacHDYcHDZmaacHDXkHDZoaacHDWuHDZqaacHDYkHDXmaabHDMcaabHDMeaabHDLmaabHDLoaabHDLqaabHDLsaab",
    "HDLoaabHDLqaabHDLsaabHDLuaabHDLsaabHDLuaabHDLwaabHDLyaabHDMmaabHDMoaabHDMqaabHDMsaabHDMkaabHDMma",
    "abHDMoaabHDMqaabHDNeaabHDNgaabHDNiaabHDNkaabHDKeaabHDKgaabHDKiaabHDKkaabHDKiaabHDKkaabHDKmaabHDK",
    "oaabHDNgaabHDNiaabHDNkaabHDNmaabHDNqaabHDNsaabHDNuaabHDNwaabHDNsaabHDNuaabHDNwabbHDNyaabHDOaaabH",
    "DOcaabHDOeaabHDNuaabHDNwaabHDOaaabHDOcaabHDOaaabHDOcaabHDOqaabHDOsaabHDNoaabHDNqaabHDOgaabHDOiaa",
    "bHDMoaabHDMqaabHDMsaabHDMuaabHDMkaabHDMmaabHDMoaabHDMqaabHDMkaabHDMmaabHDMoaabHDMqaabHDMwaabHDMy",
    "aabHDNaaabHDNcaabHDMmabbHDMoaabHDMqaabHDMsaabHDMuaabHDMmabbHDMoaabHDMqaabHDMsaabHDMuaabHDNcaabHD",
    "NeaabHDNgaabHDNiaabHDLwabbHDLyaabHDMaBhabHDRoaabHDRqaabHDRsaabHDRuaabHDPwaabHDPyaabHDQcaabHDQeaa",
    "bHDQcaabHDQeaacHDQiHDWsaabHDQcaabHDQeaabHDQsaabHDQuaabHDQoaabHDQqaabHDQeaabHDQgaabHDQiaabHDQkaab",
    "HEAwaabHEAyaacHEDsHEDqaacHEDuHEDsaacHEDwHDQkaacHEDyHDQmaacHEEaHEBkaacHEEcHEBmaacHEEeHDRuaacHEEgH",
    "DRwaacHEEiHDSaaacHEEkHDScaacHEEmHDSaaacHEEoHDScaacHEEqHDRoaacHEEsHDRqaacHEEuHDRsaacHEEwHECeaacHE",
    "EyHECgaacHEFaHECiaabHDSiaabHDSkaabHDSmaabHDSoaacHEFkHEEyaacHEFmHEEyaacHEFoHEDeaacHEFqHECyaacHEFs",
    "HECyaacHEFqHEFiaacHEFsHEFiaacHEFuHEFiaacHEFwHEDqaacHEFyHEDkaacHEGaHEDkaacHEFyHEFuaacHEGaHEFuaacH",
    "EGcHEFuaacHEGeHEEcaacHEGgHEDwaacHEGiHEDwaacHEGiHEGgaacHEGkHEEkaacHEGmHEEeaacHEGoHEEeaacHEGoHEGma",
    "acHEGqHEEsaacHEGqHEGsaacHEGsHEEwaacHEGsHEGwaacHEGuHEGwaacHEGwHEFcaacHEGoHEHcaacHEGqHEHcaacHEGsHE",
    "HcaacHEGuHEFkaacHEGsHEHiaacHEGuHEFoaacHEGuHEHoaacHEGwHEHoaacHEGyHEHoaacHEHaHEFwaacHEHaHEHuaacHEH",
    "cHEGaaacHEHcHEGcaacHEHcHEIcaacHEHeHEGgaacHEHeHEIgaacHEHgHEGkaacHEGuHEIkaacHEGwHEIkaacHEGyHEIkaac",
    "HEHaHEGsaacHEHcHEGmaacHEHeHEGmaacHEHeHEIuaacHEHgHEHaaacHEHiHEGuaacHEHkHEGuaacHEHkHEJoaacHEHmHEJg",
    "aacHEHoHEJgaacHEHqHEJgaacHEHsHEHqaacHEHuHEHqaacHEHwHEHkaacHEHyHEHkaacHEHyHEJuaacHEIaHEJuaacHEIcH",
    "EJuaacHEIeHEIcaacHEIgHEHwaacHEIiHEHwaacHEIiHEKgaacHEIkHEKgaacHEImHEKgaacHEIoHEIoaacHEIqHEIiaacHE",
    "IsHEIiaacHEIsHEKsaacHEIuHEKsaacHEIwHEKsaacHEIyHEJaaacHEJaHEIuaacHEJcHEIuaacHEJcHELeaacHEJeHEJiaa",
    "cHEJgHEJcaacHEJiHEJcaacHEJeHELmaacHEJgHELmaacHEJiHELmaacHEJkHEJuaacHEJmHEJoaacHEJoHEJoaacHELqHEG",
    "saacHELqHEGuaacHEJwHEGwaadHJBgHEJsHEJiaadHJBiHEJsHEJkaadHJBkHEJsHEJmaadHJBmHEJsHEJoaadHJBoHEJsHE",
    "JqaadHJBqHEJsHEHiaacHENcHEMgaacHENeHEMgaacHENgHEKwaacHENiHEKwaacHENkHEKsaacHENmHEKsaacHENkHEMsaa",
    "cHENmHEMsaacHENoHELiaacHENqHELiaacHENsHELeaacHENuHELeaacHENsHENeaacHENuHENeaacHENwHELuaacHENyHEL",
    "uaacHEOaHELqaacHEOcHELqaacHEOcHENqaacHEOeHENqaacHEOgHEMgaacHEOiHEMgaacHEOkHEMcaacHEOmHEMcaacHEMw",
    "HEMgaacHEMyHEMgaacHEMyHEMkaacHENaHEMkaacHENaHEPeaacHENcHENaaacHENeHENaaacHENgHEMuaacHENiHEMuaacH",
    "ENiHENgaacHENkHENaaacHENmHENaaacHENmHEPuaacHENoHENoaacHENoHEPeaacHENqHEPeaacHENsHENuaacHENuHENua",
    "acHENwHENqaacHENyHENqaacHENuHEKuaacHENuHEPsaacHENwHEPsaacHENyHEOiaacHEOaHEOiaacHEOcHEOeaacHEOeHE",
    "OeaacHERaHEQoaacHERcHEQoaacHEReHEQoaacHERgHEOwaacHERiHEOuaacHERgHEQyaacHERiHEQyaacHERkHEQyaacHER",
    "mHEPgaacHERoHEPeaacHERmHERiaacHERoHERiaacHERqHERiaacHERsHEPqaacHERuHEPoaacHERuHEPuaacHERuHERsaac",
    "HERwHEPyaacHERwHERyaacHERyHEQcaacHERyHEScaacHESaHEQgaacHERsHESgaacHERuHESgaacHERwHESgaacHERyHEQo",
    "aacHERwHESmaacHERyHESmaacHESaHEQuaacHESaHESuaacHEScHESuaacHESeHESuaacHESgHERcaacHESgHETaaacHESgH",
    "ERgaacHESgHETgaacHESiHERkaacHESiHETkaacHESkHERoaacHERyHEToaacHESaHEToaacHEScHEToaacHESeHERwaacHE",
    "SeHETuaacHESgHESaaacHESgHEUaaacHESiHEUaaacHESkHEUaaacHESmHESkaacHESoHESkaacHESoHEUkaacHESqHEUkaa",
    "cHESsHEUkaacHESuHESsaacHESwHESqaacHESwHEUuaacHESyHEUuaacHETaHEUuaacHETcHETcaacHETcHEVcaacHETeHEV",
    "caacHETgHEVcaacHETiHETkaacHETkHETiaacHETkHEVmaacHETmHETqaacHEToHEQkaacHETkHEVsaacHETmHEVsaacHETo",
    "HEVsaacHETqHEUaaacHETsHETyaacHEWoHEUeaacHEWqHEUcaacHEWoHEUiaacHEWqHEUgaacHEWoHEUmaacHEWqHEUkaacH",
    "EWqHEUqaacHEWsHEUoaacHEWeHEUuaacHEWgHEUsaacHEWgHEUyaacHEWiHEUwaacHEVgHEVeaacHEViHEVeaacHEViHEVga",
    "acHEVgHEViaacHEViHEVgaacHEVcHEVmaacHEVeHEVkaadHEWaHEUyHEUsaadHEWcHEUyHEUuaadHEWeHEUyHEUwaacHEWyH",
    "EVoaacHEXaHEVoaacHEWyHEVsaacHEXaHEVsaacHEXaHEVwaacHEXcHEVwaacHEXsHEWaaacHEXuHEWaaacHEXuHEWeaacHE",
    "XwHEWeaacHEYmHEWiaacHEYoHEWiaacHEYsHEWmaacHEYuHEWmaacHEYsHEWqaacHEYuHEWqaacHEYiHEWuaacHEYkHEWuaa",
    "cHEYkHEWyaacHEYmHEWyaacHEYsHEZiaacHEYuHEZiaacHEYwHEZiaacHEYyHEXqaacHEZaHEZgaacHEZeHEZiaacHEZcHEZ",
    "kaacHEZcHEZmaacHEZcHEXsaacHEZeHEXsaacHEZcHEXwaacHEZeHEXwaacHEZeHEYaaacHEZgHEYaaacHEZwHEYeaacHEZy",
    "HEYeaacHEZyHEYiaacHFAaHEYiaacHFAqHEYmaacHFAsHEYmaacHFAwHEYqaacHFAyHEYqaacHFAwHEYuaacHFAyHEYuaacH",
    "FAmHEYyaacHFAoHEYyaacHFAoHEZcaacHFAqHEZcaacHFAwHFBmaacHFAyHFBmaacHFBaHFBmaacHFBcHEZuaacHFBeHFBka",
    "acHFBiHFBmaacHFBgHFBoaacHFBgHFBqaacHFBmHFCcaacHFBoHFCcaacHFBqHFCcaacHFBsHFAkaacHFBwHFAiaacHFBwHF",
    "AkaacHFBsHFAqaacHFCcHFCqaacHFCeHFCqaacHFCgHFCqaacHFCgHFCwaacHFCiHFCwaacHFCkHFCwaacHFCgHFBeaacHFC",
    "gHFBgaacHFDqHFAwaacHFDsHFAysadHFEyHFEuHFCwaadHFFaHFEuHFEwaadHFFcHFEwHFEyaadHFFeHFEyHFDcaadHFFgHF",
    "EyHFDeaadHFFiHFDgHFFeaadHFFkHFDiHFFeaadHFFmHFDkHFFeaadHFFkHFDmHFFiaadHFFmHFDoHFFkaadHFFmHFDqHFDg",
    "aadHFFoHFDsHFDkaadHFFeHFFqHFFsaadHFFgHFFuHFFsaadHFFiHFFwHFDqaadHFFkHFEaHFFwaadHFFmHFEcHFFyaadHFF",
    "oHFEeHFGcaadHFFqHFEgHFEgaadHFFsHFEiHFEiaadHFFqHFGgHFGgaadHFFsHFGiHFGiaadHFFuHFEoHFEoaadHFFyHFGmH",
    "FEqaadHFGaHFGoHFEsaadHFGcHFGsHFEkaadHFGeHFEwHFGqaadHFGgHFEyHFGsaadHFGiHFFaHFFaaadHFGkHFFcHFFcaad",
    "HFGiHFHaHFEwaadHFGkHFHaHFFgaadHFGmHFHcHFFiaadHFGmHFFkHFHgaadHFGoHFFmHFHiaadHFGqHFFoHFFoaadHFGsHF",
    "FqHFFgaadHFGqHFHqHFFsaadHFGsHFFuHFFuaadHFGuHFFwHFFwaadHFGwHFFyHFFqaadHFGwHFGaHFGaaadHFGyHFGcHFFs",
    "aadHFHaHFGeHFFwaadHFGoHFIaHFGgaadHFGqHFIcHFGiaadHFGqHFGkHFIgaadHFGsHFGmHFGmaadHFGqHFIkHFGoaadHFG",
    "sHFImHFGgaadHFGuHFIoHFGkaadHFGwHFIsHFIsaadHFGyHFIuHFIuaadHFHaHFIsHFGyaadHFHcHFIuHFHaaadHFHeHFHcH",
    "FIyaadHFHgHFHeHFJaaadHFHgHFJcHFJeaadHFHiHFJeHFHiaadHFHkHFJgHFHaaadHFHmHFJkHFJiaadHFHoHFJmHFHoaad",
    "HFHqHFJkHFJoaadHFHsHFJmHFHscadHFHyHFJwHFJsaadHFHwHFIaHFJyaadHFHyHFIcHFIcaadHFIcHFKaHFIeaadHFIeHF",
    "KcHFHyaadHFIgHFKgHFIiaadHFIiHFKiHFIkaadHFIkHFKkHFIeaadHFImHFIoHFIeaadHFIoHFIqHFIiaadHFIiHFIsHFIs",
    "aadHFIkHFIuHFIuaadHFLcHFKqHFImaadHFLaHFKwHFIoaadHFLcHFKyHFIsaadHFLeHFKwHFIsaadHFLgHFKyHFIwaadHFL",
    "iHFJgHFIwaadHFLkHFJiHFJaaadHFLiHFJkHFJaaadHFLkHFLiHFJeaadHFLmHFJoHFJgaadHFLaHFLkHFJiaadHFKyHFLoH",
    "FJiaadHFLcHFLqHFJkaadHFLaHFLsHFJmaadHFKaHFLwHFJoaadHFKcHFKaHFJqaadHFJsHFLyHFJsaadHFJuHFMcHFJuaad",
    "HFJwHFKgHFJwaadHFKiHFKiHFJyaadHFKqHFKkHFKaaadHFKkHFMiHFKcaadHFKuHFKoHFMkaadHFKsHFMmHFKqaadHFLqHF",
    "KsHFKiaadHFKyHFKuHFKkaadHFKuHFMuHFMsaadHFKyHFMsHFKoaadHFLcHFMyHFLaaadHFLgHFLcHFLcaadHFLgHFNcHFLe",
    "aadHFLeHFNeHFNcaadHFNgHFNeHFKyaadHFNgHFNiHFLaaadHFLmHFNkHFLcaadHFLwHFLoHFLeaadHFNwHFNmHFLgaadHFL",
    "wHFLsHFLsaadHFMsHFNsHFLuaadHFNcHFLwHFLwaadHFNiHFNsHFLoaadHFLyHFNyHFLqiBfaaadHFQkHFPgHFEiaadHFPmH",
    "FPiHFEkaaeHFRqHFPkHFPkHFPeaaeHFRsHFPoHFRqHFQyaaeHFPmHFRiHFPmHFReaaeHFQuHFPqHFQmHFPoaaeHFReHFRaHF",
    "PkHFPsaaeHFQqHFPuHFPiHFPoaaeHFPoHFReHFPwHFPuaadHFRcHFPyHFPoaasHFReHFQaHFPqHKGyHFSgHFQaHFQaHFPuHK",
    "GyHFQwHFQaHFPoHFPuHKGyHFPsHFRiHFQaHFPyaaiHFRyHFQcHKHaHFRyHFQcHFSiHFQcHFPwaaeHFRqHFFsHFSkHFQedpba",
    "aabHKHsaabGABwaaaabbHKGwaabHKIyaabHKGsabbGAAsagaqaaaabGMFyaabGMGcaabHKGmaabHKGoabbHKKwaabHKEqaab",
    "HKEoabbGADmabbGADyabbGAEoabbGAEwadbGAEscabHKIiaabHKIgaacHKNaHIIaaacHKNcHIIcaacHKNeHIIeaacHKNgHII",
    "gaabHKImaabHKIoaabHKIqaabHKMqaabGAGuabaaabHKLuaabHKLyaabHKLqaabHKOaaabGMIyabbHKNqaabHKHkaabHKHia",
    "bbGAGgaabHKOmaabHKOiabbHKOcaabHKOaaabHKMyaabHKMwaabHKNaaaaaabHKKuabbHKPeaabHKNeadaaacHKQaHFYoaac",
    "HFZmHFYqaacHKQeHFYqbacHKQiHFYsaaaaacHKQmHFYuaacHFZyHFYwaacHKQqHFYwaacHGAcHFYyaacHKQuHFYyaacHGAgH",
    "FZaaacHKQyHFZaaacHGAkHFZcaacHKRcHFZcaacHGAoHFZeabbHGDaabbHGDcabbHGDeabbHGDgabbHGDiaabHGDkaabHGDm",
    "abbHGDoabbHGDqaabHGDsaabHGDuabbHGDwabbHGDyaabHGEaaabHGEcabbHGEeaabHGEgaabHGEiabbHGEkaabHGEmaabHG",
    "EoabbHGEqaabHGEsaabHGEuabbHGEwaabHGEyaabHGFaabbHGFcabbHGFeabbHGFgabbHGFiabbHGFkaabHGFmaabHGFoabb",
    "HGFqaabHGFsaabHGFuabbHGFwaabHGFyaabHGGaabbHGGcaabHGGeaabHGGgabbHGGiaabHGGkaabHGGmabbHGGoaabHGGqa",
    "abHGGsabbHGGuaabHGGwaabHGGyabbHGHaaabHGHcaabHGHeaabHGHgaabHGGuaabHGGwaabHGGyabbHGHaaabHGHcaabHGH",
    "eabbHGHgaabHGHiaabHGHkabbHGHmaabHGHoaabHGHqabbHGHsaabHGHuaabHGHwabbHGHyaabHGIaaabHGIcabbHGIeaabH",
    "GIgaabHGIiabbHGIkabbHGImabbHGIoaabHGIqaabHGIsaabHGIuaacHGJiHGLyaacHGJkHGMaaacHGJmHGMaaacHGJoHGMc",
    "aacHGJqHGMaaacHGJsHGMcaacHGJuHGMaaacHGJwHGMcabaaabaaaaaBfbHLBcazbHKYqaBjbHLBcabbGFZgaabHLHmabbGB",
    "AyaabGBByaabGAIuaabGAJoaabGAPwaabGAPuaabGAPsaabGAPqaabGAPoaabGALeaabGALcaabGALaaabGANwaabGAJoaab",
    "GAQoaabGAQmaabGAQkaabGAQiabbGAQgaabGAQeaabGAQcaabGAQaaabGAPyaabGAPwaabGAPuaabGAPsaabGAPqaabGAPoa",
    "abGAPmaabGAPkaabGAPgaabGAPeaabGAPcafbGAPaaabGAOwaabGAOsaabGAOoaabGAOkaebGAOgaabGAOeaabGAOcafbGAO",
    "aaabGANyaabGANsabbGAUsaabaabbGYTeaabGYGgaabGYTgabbGYGgacbGYTkafbGYGiaabGYSiacbGYTyaabGYScajbGYUa",
    "acaafbGYOgabaafbGYOkabaafbGYOoabaacbGYOsacaabbHLIiaabHLHsaacHLSoHJNqaabHLIiaabHLImaabGNCcaaaaabG",
    "JUqadbGMKoaabGJIwaabGJFqaqamaaBaaataacaapbaoBhaEteaddaBtcaDkaancabBuaBuEzaBdcaBxoaBcdaBkiaBeeaBr",
    "eaBeaaBldaoBpaaBnbDdEobakfaaBjbDdadaBkdaBohaCakabkbDbaaaaobDbaaaagbDbaaaabbDbaaalaapaahaaccaCala",
    "LziawjaixabbbHPLqaabHQXmaabHPQcaabHPVoaaaaabHPPoaabCRUiaabHPPoaabHPPsabbHPVuaabGVFsaabHPVwaabHPV",
    "maabHPPuaabHPVeaabHPVkaabHPVqaabHPReaabHQTwaabHPRgaabHPVkaabHPTgabbHPQkaabHPViaabGHDxaabCUTqaabH",
    "PVkaabGHDtaabHPTcaabGHDraabHQYmabbHPVeaabHRJcaabHPVcaabGHDjabbHPVaaabHPUyaabHPRyaabHPSeaabCRXcaa",
    "bHPSgaabHPUsaabGKBmaaaaabHPUkabbHPTcaabHPTyacbHQKqaabGHCdaabGHDpaCqagbabaaBsaaccabbaxaaCuhajBvat",
    "aaceaBhcaBbeaBbBlaCedaubaByaaceaiaadaaBdbaddakgajgaCmBfaBndamiaCccaBdbaBbeaBagaelahDbaCvCcaaBybE",
    "zamaBzgaBuhakfaqvbCnacaBdhacHzaBfaaBqaadbacpaghajBgaBuhaBqvaBaBlaBctaxiaDadaBkiaCkaafmazgakfaCba",
    "ashaBniaDsaaukasaaBvCjahaabaaeaapaalfaCheakfaeaaibacbawaahaacaafaakbacbadbabfabeahbahcafkakaabba",
    "baaBmaakaabbabaaeaakaachacBcaDoaafBdaCuhakGjaCcbaBmBhaCrkakfansaCgfakfauBbaBbbapdaxHcaCiDvaaBfbC",
    "nBzlaibabbaiaacaaBeaacbamiakCraibaBubalBaaCuhaDfmaCvgakDhaiDjaBinakfajaaBtaaojaBdcaBgbawaaoCuaha",
    "acaaBscabaacaajhakfagaacaaBlaacaaggakfaBsdakJlazgaraaBpcaBdDgaboaBymaBJnDxaEhaafkaHoDXjaDvmaBPgp",
    "awjaFXreaWlKDcaCgCOraVxgaBfaakdaDdaakfaBebagjaCsjakaahaaveatQpaCgHpaaBfbCnCheaaybCdabazBraCxdaCf",
    "garClafkahiaKXyBoaBgDsaElMWqaeaahaacaaLfoabBcadbabnaehaPgDKtaEdeancajgakbaedbaaFVfaIgzbNKTmajbNK",
    "ZgdcaQufaxoaroaBubaxiaEmChaJmjaBnbaCbacopaaconaadqlBdaadsjBdaaduhBdaadwfBdaadydBdohbaCmaceGqaace",
    "GsaadiGuGcaadiGwGeaadmGyGeaadmHaGgBquaCsEraulaulaDjiazFeaazbNQEoazbNQGoazbNQIoagbNQKoaaaarbNQKoa",
    "zbNQMoazbNQOoaabNQQoaaaabbNQQoabaaabNQQoabaabbNQQoabaadbNQQoaaaahbNQQoadbNQSoaaaaabNQSoaaaagbNQS",
    "oaaaakbNQSoazbNQUoazbNQWoabbNQYoaaaadbNQYoabaahbNQYoaaaagbNQYoaaaazbNRAoabbNRCoaaaadbNRCoaaaaebN",
    "RCoaaaaabNRCoacaagbNRCoaaaazbNREoazbNRGoazbNRIoazbNRKoazbNRMoazbNROoazbNRQoazbNRSoazbNRUoazbNRWo",
    "azbNRYoazbNSAoazbNSCoaabNROoaabNQUmabaaqbNPRqaabNPSkagbNPRqaabMSUeaqbNPTqaabNPToagbNPTqaabMSWoaa",
    "bNPViaabNPVeaabNPVcaabNPUgaabNPUsaabNPUwaqbNPWcaabNPWwagbNPWcaabMSYqaqbNPYcaabNPYaagbNPYcaabMTBa",
    "aabNPZuaabNPZqaabNPZoaabNPYsaabNPZeaabNPZiaqbNQAoaabNQBiagbNQAoaabMTDcaqbNQCoaabNQCmagbNQCoaabMT",
    "FmaabNQEgaabNQEcaabNQEaaabNQDeaabNQDqaabNQDuaqbNQFaaabNQFuagbNQFaaabMTHoaqbNQHaaabNQGyagbNQHaaab",
    "MTJyaabNQIsaabNQIoaabNQImaabNQHqaabNQIcaabNQIgaqbNQJmaabNQKgagbNQJmaabMTMaaqbNQLmaabNQLkagbNQLma",
    "abMTOkaabNQNeaabNQNaaabNQMyaabNQMcaabNQMoaabNQMsaabNQKoaabNQKqabaajbNTFgajbNTGaajbNTGuajbNTHoajb",
    "NTIiZcoafaapBQlaBffagIeahaarbahaacaafeaaibNWNoacbNWNmakbNWNkaabNWNgabbNWNeaabJDQoaabNWCqaabNWMua",
    "abNWMsaabNWBqaabNWGeaabNWDuaibNWQcabbNWQaabbNWPwaabNWPuafbNWPsabbNWPqaabNWKiaabNWOyaabNWPcaabNWO",
    "kaabNWIqaabJDXmaabNWIiaBgabEhaBtcaobakdacMhaBfqaCgeabRvaBqIfaBrdabHjaBfaawhacIpahaaeaacaapaaHpba",
    "qBoaaBhbCrBqdakdacBEeaCqCxaCjHlaabbOFMwaabOFMqaabOFMmaaaaabOFKsaabOFMmaabOFMyaabOFMgaabOFKwadbOF",
    "LmaabOFNaaabOFMqaabOFMcaabOFNcaabOFMeaabOFNoaabOFNkabbOFOgaabOFOcaabOFOaaabOFNqaabOFNoaabOFNmaab",
    "OFJoaabOFDuaabOFFuaabOFJsaaaaabOFPiaabOFPcaaaaabOFNeabaaabOFPkaaaaabOFNiadbOFNyaabOFPmaabOFPcaab",
    "OFOoaabOFPoaabOFOqaaaaabOFPwabbOFQsaabOFQoaaaaabOFQcaaaaabOFPyafaaabOFRoadaaabOFRwaaaaabOFPuaaaa",
    "abOFQkaaaaabOFQkaabOFRyaabOFRoaaaaabOFSaaabOFRcaaaaabOFSiabaaabOFTaaaaaabOFSoaaaaabOFSkaaaaabOFI",
    "saaaaabOFOqaaaaabOFUgaabOFUaaaaaabOFScabaaabOFUiaabOFTqaabOFSgaabOFSwaaaabbOFSwaabOFUkaabOFUaaab",
    "OFTmaabOFUmaabOFToaaaaabOFUuabbOFVqaabOFVmaaaaabOFVaaabOFUyaabOFUwaabOFQyaaaaabOFNeaaaabbOFWsaab",
    "OFWmaabOFWiabbOFUoaabOFWiaabOFWuaabOFWcaabOFUsaaaacbOFViaabOFWwaabOFWmaabOFVyaabOFWyaabOFWaaabOF",
    "XkaabOFXgabbOFYcaabOFXyaabOFXwaabOFXmaabOFXkaabOFXiaeaaabOFZeaabOFYyaabOFYuaaaaabOFXaaabOFYuaabO",
    "FZgaabOFYoaabOFXeaaaacbOFXuaabOFZiaabOFYyaabOFYkaabOFZkaabOFYmaabOFZwaabOFZsabbOGAoaabOGAkaabOGA",
    "iaabOFZyaabOFZwaabOFZuaBzacKjaBsdaDwlapbapaapaaBlkaaacOMHmOMHuaacOMHmOMHwaacOMHmOMHyaacOMHmOMIaa",
    "acOMHmOMIcaacOMHmOMIeaacOMHmOMIgaacOMHmOMIiaacOMHmOMIkaacOMHmOMImfadOMJgOMEwOMJeaadOMJiOMEwOMJga",
    "adOMJkOMEwOMJiaadOMJmOMEwOMJkaadOMJoOMEwOMJmaadOMJqOMEwOMJoaadOMJsOMEwOMJqaadOMJuOMEwOMJsaadOMJw",
    "OMEwOMJuaadOMJyOMEwOMJwaadOMKaOMEwOMJyaadOMKcOMEwOMKaaadOMKeOMEwOMKcaadOMKgOMEwOMKeaadOMKiOMEwOM",
    "KgaadOMKkOMEwOMKiaadOMKmOMEwOMKkaadOMKoOMEwOMKmaadOMKqOMEwOMKoaadOMKsOMEwOMKqaadOMKuOMEwOMKsaadO",
    "MKwOMEwOMKuaadOMKyOMEwOMKwaadOMLaOMEwOMKyaadOMLcOMEwOMLaaadOMLeOMEwOMLcaadNCDoOMFmNCDmaabOMGuaab",
    "OMFsaacOMGyOMGwaacOMFmOMFgbzbOMHiaacOMIuOMHsaacOMImOMHuaacOMIcOMJgaacOMIeOMIeaadOMImOMImOMIaaacO",
    "MIaOMJoBaacOMKwOMLqaacOMKyOMLqaacOMLaOMKqBjacOMOmOMOaBdCdaBaacNCMcNCPuaacNCHwNCHwaabNCHuamaaabLQ",
    "UkaabLWBkaabMBUaaabNCHsaabMFToaabLXTuaabKMVeaabLXSuaabMFSaaabLNXqaabLFPaaabLOIeaabMCYgaabLSXmaab",
    "MDNeaabLOGsaabMDCgaabKWKsaabLCPaaabKKToaabLXYeaabMBNcaabLHEiaabLQQmaabLQBuaabMGFyaabMGFiaabKIAsa",
    "abLUFcaabMGCuaabMBTeaabLQIiaabKKFgaabLQWiaabKZHyaabKYOwaabMBSaaabLHQwaabLNHyaabLNIcaabLCPeaabMCX",
    "qaabMALkaabKHIaadaaadNCYyLNGaNCYwaadNCZaMGHcNCYyaadNCZcMFXcNCZaaadNCZeLWBkNCZcaadNCZgLGAgNCZeaad",
    "NCZiLQXwNCZgaadNCZkLBJyNCZiaadNCZmMCQmNCZkaadNCZoLOQsNCZmagaaabLTAoaabMBWeanagFxaBLxcarcancaIkfa",
    "mdaboamdaCehakfaBohaBebamdacnajBmaNghaobancalcaCfaabdaqbamdakgaFraaDojbOUOubBNoaCLFcBfaGMobaIOcb",
    "aLBloaXyDQvaaabTWJmaabTWJyaabTWJiaabHEZqaabTVNkaabTVHmaabTVGoaabTVBeaabTUSaaabTUPsaabTUJuaabTULs",
    "aabUPUyaabHBEcaabTUCgaabTUBuaabTUAqaabTTZgaabHCAmaabUPTkaabTUAsaabTTXwaabHBXeaabTTXgaabTTWiaabTW",
    "AkaabTTVwaabTTVgaabCZLiaabTTQmaabTTPmaabUPRkaabTTLiaabTTKoaabTTHgaabTTGyaabUPNqaabTTAyaabTTAwaab",
    "TSYwaabTSXgabbTSWmaabTSVgaabTSRmaabTSQyaabTSQiaabTSOmaabTSNuaabTSNsaabTSNuaabTSNwaabGYHkaabSWQca",
    "abTSIiaabTSGuaabGXJuaabTSGaaabTSFqaabTSEcaabTRSmaabTSAkaabTRZgaabTRWwaabTRSmaabTRMcaabTRKeaabTRF",
    "caabTRDyaabTRBmaabTRBoaabTRAaaabTQYsaabTQYeaabTQXcaabTPXaaabTQSaaabTPXcaabTQMkaabTQJuaabTTTaaabT",
    "ONeaabTPJkaabTPGoaabTPEsaabTPOuaabTPCaaabTPCeaabTOSuaabGQHeaabTONoaabTONgaabTOMeaabTOKsaabTOKeaa",
    "bTOFiaabGOYyaabGOTyaabTNUyaabTNRkaabTNQoaabTNWsaabTNLwaabUOIkaabUOHkaabTMZqaabTMVoaabTMVqaabGMQi",
    "aabTMLoaabTMKaaabTMIyaabTMIcaabGLQwaabTMHiaabTMGwaabTJTyaabTMEwaabUNYgaabTMAgaabTLZgaabTLTaaabTL",
    "XaaabGJOoaabTLJeaabGJOoaabTLGaaabTLGiaabTLFcabbTKXkaabUNLwaabTKVmaabTKSgaabTKQsaabTKNkaabUNIiaab",
    "GGWiaabUNGmaabTKIgaabTKIcaabTKHyaabTKGmaabCMJqaabTKCqaabGFPwaabGFPyaabSJPkaabTKAeaabTKAgaabUNBqa",
    "abFTWoaabEKEmaabTJVqaabTJVaaabUMZwaabTJRoaabTJNsaabTJNaaabTJKmaabTJAcaabUMTqaabUMWaaabTIYwaabGCX",
    "saabTIVcaabTILgaabTILaaabTIKyaabTILeaabTIHsaabTIGgaabTIDoaabTIEsaabTIDyaabTIAkaabTHYyaabTHYsaabT",
    "HWuaabTHWaaabTHRaaabTHKqaabTHIaaabTGYoaabFZUeaabTHAeaabTHFgaabTGXaaabTGVaaabTGNqaabFZDaaabTGJaaa",
    "bTGQgaabTGSmaabUMDkaabTGDwaabTGCiaabTGAaaabTGDaaabULZaaabTFMoaabTFKkaabFWBgaabTFBkaabTEGeaabTETs",
    "aabULMgaabTEOiaabULNsaabULQoaabTUMaaabTULwaabTEGeaabTENyaabSKUsaabUEWqaabTEEsaabTEEmaabTEEcaabTD",
    "ZmaabTEAkaabFTHkaabULJuaabTDNuaabTDWwaabTDHeaabTDDiaabFSUuaabTDCuaabTDLkaabTCSqaabULEaaabTCPgaab",
    "TCHwaabTCCmaabTBNyaabFRDyaabTBKeaabUKVcaabTBEyaabFPQoaabTBBeaabUKRgaabTAZaaabTAVqabbTATqaabFOFsa",
    "abGKOwaabFNXmaabTAIqaabFMPaaabTAAcaabSZZcaabTAHaaabSZTqaabSZQqaabSZMiaabSZQoaabSZNoaabSZMmaabSZL",
    "oaabFMIiaabSZRyaabSYYsaabSYTyaabUKBmaabSYMyaabSYNiaabFLBkaabSZDiaabSYAsaabFKQuaabFKNeaabSXUeaabS",
    "XLkaabSXNoaabSXNwaabUJUuaabSXKkaabSXGoaabSXHcaabSXDaaabHCUeaabSWRmaabFIKiaabSWKyaabFHLgaabSWAiaa",
    "bSVZkaabSVXkaabFFRaaabSVTwaabSVSiaabFEUcaabFEDaaabSVAyaabSUZsaabUJAyaabSUXwaabUJAeaabUJAgaabSULq",
    "aabSUKcaabSUIoaabSUHcaabSUBwaabUITcaabSTVcaabFBAsaabSTTgaabFATuaabSTPoaabGHHsaabSTDkaabEYLwaabEY",
    "KeaabEXZmaabUICqaabUIBuaabSSMiaabEXMiaabEXMmaabEXJoaabEXHqabbSSJmaabSSJoaabSSGiaabUHYuaabSSBmaab",
    "UHXyaabUHRwaabEVCyaabSRMuaabSRIcaabSRDgaabUHMiaabETPgaabSQSwaabETGmaabETDgaabSQOsaabSQHsaabUHHaa",
    "abSQBiaabSQAqaabSQAiaabERCiaabEQFkaabEQFmaabSPOkaabUGRkaabEPLsaabSOYaaabSOXwaabUGOwaabEOVqaabSOD",
    "saabUGFuaabSOCeaabSOCqaabSOAmaabEMOoaabSNTaaabUFYuaabSNLmaabSNHaaabSNByaabUFVeaabEKPgaabEKMyaabU",
    "FSoaabEKBwaabSMEqaabEJUgaabSMCsaabSLVaaabSLUgaabEIOwaabEIJiaabSLNmaabEHZgaabSLMkaabFUBqaabUFKaaa",
    "bSLHoaabSLBkaabUFGcaabSKXaaabTOByaabEGMqaabEGLqaabFTYiaabFTXsaabSKImaabSKIiaabSAAoaabUEZmaabSJXs",
    "aabSJYgaabSJWyaabTUEoaabSJVoaabSJVmaabSJUuaabSJRsaabEDViaabSJRyaabSJNsaabSJIkaabSJCuaabSJNmaabSJ",
    "BsaabSIYoaabSIQaaabSJKcaabSJBaaabSJAyaabSIZuaabEDDcaabECFkaabECRaaabUEMqaabSIEwaabSIEuaabSICeaab",
    "DXKkaabSHWiaabEAXmaabUEJiaabUEJcaabEANmaabDZRiaabUEIoaabSHEsaabSHDwaabSHDcaabSHDaaabSGYeaabSHAua",
    "abSGQoaabSGUaaabSGImaabSGOuaabSGJsaabSGHsaabUEBgaabSGAwaabSFYmaabUDYwaabSFRiaabSFReaabDVMyaabSFI",
    "kaabSFHyaabUDUsaabSFFyaabURBaaabDTUoaabDTGmaabUDKoaabUDJyaabSDZyaabSDUcaabSDIcaabSCSoaabDQUwaabS",
    "CMcaabSCKmaabSCDqaabSBWqaabDOXmaabHBEgaabSBQkaabSBRqaabSBNsaabHANuaabSAWiaabSAOsaabDJXkaabDJVkaa",
    "bRZOeaabRZHcaabRZEsaabDIXaaabRZEcaabRYIgabbRXWcaabRYDgaabRXAaaabRWXyaabDFHeaabRVViaabUBJgaabRVSc",
    "aabDEEeaabUBDgaabRUXsaabTMDoaabRUQmaabDBHqaabDARiaabUATgaabUASsaabRUCiaabCZFmaabUAOiaabCYUwaabRT",
    "ZiaabRTZkaabRTXeaabCXZaaabRTJcaabUAEyaabRTDuaabRSUeaabRSSeaabRSNqaabTZTkaabCTVuaabRRSqaabRQVmaab",
    "RQHaaabTZAcaabTYXuaabRPZcaabCPPsaabTYXeaabCPLqaabCORiaabCOHiaabROZkaabTYQiaabROUuaabROUmaabROUaa",
    "abROTiaabROSwaabROQcaabCLSkaCFxaHHzeaMOoBOGXxaaJfbaaLECta"]

/-- The combining marks. -/
def combiningTable : RunSet := .ofTable
  ["BDoEhKpgKdBsbabbbbbaCukBwuqaDxgcfcbbdBjaBeBaDnkCgijaydbibcbeBrcCihBqxbBgCccbrbgkbBdcCeabgcbccjak",
    "bBaaccCeabeebccdaBebdalcCeabhbcbcubwfbcCeabgcbcchckbBeaChedcbdjaBoeCdabgbcbdhblbBdcCeabgbcbdhblb",
    "BcdCdbbgbcbdjakbBdcCsaefbabhsbCjacgmhDuacilfCwbBbababaebBxtbbfkbBjjaDwtxdecbccgddnlbakdBBbcBKkdB",
    "ccBdbBebCmBfjaBtcbaEnbBiaEolelIleCfjbBccaBwBeBxeBvqBmimcBemCenBwtFwcbueagaccHqClBBsBgEOccFlaDsBf",
    "VifEbbBSQedbjBgbDcbKmadaeaxeeaDfbByrBarnaBmhzmBsdBvnBkaCpnmaibBtcByabccbfbbaBpefbJchbbBDZsaBCjpq",
    "pBLlaIsaFteCMgcbbfdBoceaGjbWbdOxbFxkBxdEscCboBpacbkdBtkhaCjcBknqbBsamcBwnidbbDolgaGelvdCdbbgcbcc",
    "jakbcgdeHkrxaDdtJbgciBbbDeqEcmDxoJwoJlfbbcdbabbFlgcgdaBcjBogbdiajkBupPphbhDevbnEsfdabbbgbaCoebbb",
    "eNjdBCUbeChgBOiabCchdDdalbBDAxbGYzBtcwUwedfihcgBedFscCYdCceBxiaoaweboCAigbqcgbbbeKbgOlaCjdCFwgEf",
    "gBTCIvJf"]

/-- The directions of characters, left to right where none is given. -/
def directionTable : RunMap := .ofTable
  ["aibjaeblanbjaeblabbiacbhaebiaabfaabgaabfabbgajbeaabgafbiBafbiBadbiafbjaablazbjaabgaabiadbhadbibb",
    "biaabjabbiabbhabbeaabibcbiaabebebixabiBfabiRhbbihnbicnbifibibqbiaEhbkebbiiabifbbibabiEgabiFkgbkJ",
    "wabicbbiaabhbBsbkaabbaabkaabbabbkaabbabbkaabbaabkiBabbefbblfbdabbiaabcabbhaabcaabgaabcabbiakbkaB",
    "vbcaubkajbdaabhabbdacbcaabkaDwbcagbkaabdaabiafbkabbcabbkaabiadbkabbcajbeatbcbbbcaabkaBdbcaBabkcD",
    "kbcakbkaabcoBqbbaibkabbbadbiaabbcabkaxbbadbkaabbaibkaabbacbkaabbaebkcobbbybbacbkcabbbkbcfBebcbbb",
    "dghbkaBpbcaxbkaabdaBfbkCdabkbabkehbkeabkdgbkkbbkBdabkCgabkedbkiabkubbkobbhhabhcabkcbbkCfabkebbke",
    "bbkccbkdabkBebbkdabklbbkCfabkeebkbbbkeabkubbknabhifbkbabkCgabkcabkbdbkiabkhbbklbbkBeabkCjabkmabk",
    "BlfbiaabhaabifabkdabkCdabkbcbkfcbkbdbkhbbklbbkugbicabkCgabkpbbkubbkBcbbkCfbbkedbkiabkubbkBdabkCu",
    "abkhcbkbabkDmabkcgbkeabhhhbkDuabkcibklfbkCwbbkBbabkbabkbabkadbiBznbkbebkbbbkfkbkbBjbkjabkDydbkbf",
    "bkbbbkcbbkzbbkecbkqdbknabkcbbkgabkpabkBBbcbkBwjbiDyabiYpablBabbiEncbkBdbbkBebbkBebbkCmbbkbgbkiab",
    "kckbkhabhbabksjbigkbiacbkaabjaabkEnbbkBiabkEocbkebbkjabkgcbkeabidbbiFwBhbixbbkcabkCgabkbgbkbabkb",
    "abkchbkgjbkcabkBwBebkBxdbkBwabkbebkbabkfabkBoibkmbbkBgdbkcbbkbcbkCeabkbbbkdabkbcbkCghbkcbbkFwcbk",
    "bmbkbgbkeabkgabkdbbkHqClbkRdabibcbilcbincbincbinbbibkblacbjbabbaxbiagblaabgaebhaobiaabgazbiaabla",
    "ebjbdblafbjaabedfbeabbfacbibjbeabbfacbirBgbhpBgbkpbbibdbibbbikabibcbiffbibabibabibabieabhlbbieeb",
    "ifdbicpbiBpcbieEzbiaabfaabhaLdbiCrzbibFobizkbivBnbiatbeDaRhbibNabiJwYdbicBfbibEabiIvfbiecbkhgbiE",
    "xabkDsBfbkaDpbiBizbibDkbimIfbiBalbieabladbidybijdbkcabifbbifcbiDlbbkabbidabiDmabiHoBjbiCfbbiBxpb",
    "iBccbiByobimdbiGldbiDvbbiBfabiJToClbiBGUiCcbiMocbiDrdbkaabiajbkabbiBebbkDcbbkoBhbiDyabiErabkdabk",
    "eabkzbbkbdbiaabklbbhCgdbiCybbkBarbknabkBmhbkzkbkBucbkBwabkcdbkcbbkBnabkCpfbkcbbkcbbkmabkiabkBvab",
    "kBzabkbcbkcbbkfbbkbabkBqbbkiabkElbbiErabkcabkeabkBDZrabbaabkajbbaabfambbbebbbabbbbbbbbbbbjbbaEkb",
    "cqNybcarbiaClbccCbbchabiBgmbcacbiapbkajbigpbkaBfbiaabgaabiaabgbabiaabgaibiaabhabbiabbfacbibabiab",
    "bhaabieebcbFebccabjbbbiacbhaebiaabfaabgaabfabbgajbeaabgafbiBafbiBakbiEsbbhacbiabbhbgbikebiJzabiC",
    "kCybidmbidabiDoabkIsabkaBabeEsebkBSnfbbcabbbBrbbbbbbdabbcwbbbCtbbiibbBwsbbbbbbfBgbbdabiazbbfabbC",
    "mCdbbetbbcBubbacbkbbbkfdbkadbbbcbbbBcbbccbkeabkaibbhibbhClbbBgBkbbabbkelbbjCbbbdgbiavbbcBabbfzbb",
    "hdbbmgbbDcCubbCdBybbnBybbhfbbaBjbcadbkijbdLiBebdbBpbbbbbkaabbcbbbDaBnbbivbcakbkaibcwrbbadbkadbbB",
    "mBbbbuwbbkabkCcobkltbikabkcbbkkcbkBxdbkcbbkhabkCjcbkBkebkbhbkCkabkmbbkCaibkkdbkcabkDrcbkcabkbbbk",
    "gabkGeabkdhbkvbbkCfbbkdabkBlgbkdebkHnhbkccbkbabkxabkDgfbkbabkebbkbbbkJedbkgbbkbbbkBbbbkDhhbkcabk",
    "bbbkBfmbiCkabkbabkcfbkbabkDxcbkcdbkbebkJzibkbbbkJwbbkbabkeabkFodbkcbbkeabkBgfbkcbbkBofbkcdbkiabk",
    "jfbkccbkBumbkbbbkPqgbkbfbkDgvbkcgbkbbbkbbbkEsfbkdabkbbbkbgbkbabkCubbkdabkbabkNjbbkIqhbiadbhaqbiB",
    "CKkebkChgbkBOiabkCldbkDbabibabkBDBkbbkbdbjGYuBtbkcwbkUycbkjhbjahbkcgbkBedbkChbbivCnbiacbkaabiHeD",
    "ibiBIqabiCfabiCfabiCfabiCfabikBxbeTsCcbkeBxbkiabkoabkwebkbobkCAigbkbqbkcgbkbbbkbebkKbgbkOlabkCjd",
    "bkpabhBXgHobbcibbagbkBpCpbbagbkaabbejbbebbbBEfCpbcCyCibcHmdbcbBabcbbbcbabccabcbjbcbdbcbabcbabcga",
    "bceabcbabcbabcbcbcbbbcbabccabcbabcbabcbabcbabcbbbcbabccdbcbgbcbdbcbdbcbabcbjbcbqbcfcbcbebcbqbcCa",
    "bbiKkBrbieDvbimobicobibobibBkbikkbeaebiBfabiCgfbiCjabiGwfbiFyBLvbifpbidmbidElbimDkbihlbieabiplbi",
    "eCdbiijbigBnbiiBdbicbbiDaNbbimnbicebidebidgbijBcbidkbiffbikjbighbiigbijFqbibCcbiBljbeBSUXbabjBeD",
    "rbjEyJfbk"]

/-- How characters join with their neighbours. -/
def joiningTable : RunMap := .ofTable
  ["GrabfWwEhbfKpgbfKdBsbfbabfbbbfbbbfbabfCukbfbabfdabcbdbeaabcaabeaabcaabeaebcadbeambcaabbagbcaabea",
    "bbcaubfobbcaabfacbebcbeapbcarbeaBlbcaabeabbcaibeaabcaabeaabcaabeabbcabbebabeagbfcfbfcbbfbdbfabbe",
    "kcbccabcpabfaabeaabfacbcaebeadbcaabeaibcaabeaabcaabeaabcaabeabbcaabeaBabfcabeakbcacbeaobcabbeadb",
    "caabeaabcabbeacbcabbeafbcBmkbfzBgbcaibfgabbcabfydbfbibfbcbfbebfsabeaebcabbeaabcaabeajbcaabeaabca",
    "cbeacbfeabcbdbcbabeaabcabbefsbeacbbaabccebcaabeaabchibfajbcacbebabeabbcabbeafbcaabeaobcbxbfbBfbf",
    "CdabfbabfehbfeabfdgbfkbbfBdabfCgabfedbfiabfubbfBaabfcbbfCfabfebbfebbfccbfdabfBebbfdabflbbfCfabfe",
    "ebfbbbfeabfubbfwfbfbabfCgabfcabfbdbfiabfhbbflbbfBeabfCjabfmabfByabfdabfCdabfbcbffcbfbdbfhbbflbbf",
    "BdabfCgabfcabfgabffbbfubbfBcbbfCfbbfedbfiabfubbfBdabfCuabfhcbfbabfDmabfcgbfmhbfDuabfcibflgbfCvbb",
    "fBbabfbabfbabfCdnbfbebfbbbffkbfbBjbfjabfDydbfbfbfbbbfcbbfzbbfecbfqdbfnabfcbbfgabfpabfBBbcbfBKkcb",
    "fBdbbfBebbfBebbfCmbbfbgbfiabfckbfjabfBpabccabbacbfbabfqDkbcmbbfaBhbcaabfaabcEncbfebbfjabfgcbfIlb",
    "bfcabfCgabfbgbfbabfbabfchbfgjbfcabfBwBtbfclbfudbfBwabfbebfbabffabfBoibfmbbfBgdbfcbbfbcbfCeabfbbb",
    "fdabfbcbfCghbfcbbfFwcbfbmbfbgbfeabfgabfdbbfHqClbfUdabfbabbabbfBaebfBxebfffbfDsBgbfEOccbfFlabfDsB",
    "fbfVidbfEdbbfBSQedbfbjbfBgbbfDcbbfKmabfdabfeabfzbbffabftBxbcaabdDdbbfBarbfnabfBmhbfzkbfBucbfBwab",
    "fcdbfcbbfBnabfCpfbfcbbfcbbfmabfiabfBvabfBzabfbcbfcbbffbbfbabfBqbbfiabfJeabfcabfeabfBDZsabfBCjpbf",
    "qpbfHzabfJpcbfTtabfIsabfFtebfCMgcbfbbbffdbfBocbfeabfEyebcaabebabebbbecabdaebeadbcaabdaebcaabeacb",
    "caabecabeabbfedbcaabeFoabcaabeaabcacbeacbcaabeabbcaabeaabcabbeaabcaabexdbeabbcMzabdaBgbcaabeaabc",
    "adbfCnebfMfbbfvabeabbcbbbcByfbfBwcbcaabeaqbcbkbfacbcaabeBbdbcabbealbcadbfBqabcbbbcacbebabcabbeab",
    "bcaabeabbcbabcabbeaabceabeaabcaabdCbabfCcobfBpabfcbbfkcbfBxdbfcbbfhabfCjcbfBkebfbhbfCkabfmbbfCai",
    "bfkdbfcabfDrcbfcabfbbbfgabfcabfGbabfdhbfvbbfCfbbfdabfBlgbfdebfCsfbfnabfbabfbabfobbfDhhbfccbfbabf",
    "xabfDgfbfbabfebbfbbbfJedbfgbbfbbbfBbbbfDhhbfcabfbbbfEcabfbabfcfbfbabfDxabfbabfcdbfbebfJzibfbbbfJ",
    "wbbfbabfeabfFodbfcbbfeabfBgjbfBofbfcdbfiabfjfbfccbfBumbfbbbfHqabfbcbfbabfHtgbfbfbfbabfDevbfcgbfb",
    "bbfbbbfEsfbfdabfbbbfbgbfbabfCubbfdabfbabfNjbbflbbfCaebffabfbabfxabfHXdqbfgobfQYylbfdcbfDSaebfChg",
    "bfBOiabfCldbfDdabfBDBkbbfbdbfGYuBtbfcwbfUycbfjpbfcgbfBedbfFscbfCYdCcbfeBxbfiabfoabfwebfbobfCAigb",
    "fbqbfcgbfbbbfbebfDwabfGegbfOlabfCjdbfTodbfJubbfJjabfcabfhbbffabfSggbfBpCpbcahbfBTBYzabfBeDrbfEyJ",
    "fbf"]

end VulnProbe.DomainName

import VulnProbe.Text.Table

namespace VulnProbe.Text

/-- The characters that can be taken apart, each with its parts as differences. -/
def partsTable : RunMap := .ofTable
  ["HkacJtBSiaacJvBSiaacJxBSiaacJzBSiaacKbBSqaacKdBSsbacKdBUuaacKbBRsaacKdBRsaacKfBRsaacKhBScaacKbBR",
    "kaacKdBRkaacKfBRkaacKhBRubacKbBRgaacKbBQyaacKdBQyaacKfBQyaacKhBQyaacKjBRgcacKdBQkaacKfBQkaacKhBQ",
    "kaacKjBQuaacKdBQecacJtBPwaacJvBPwaacJxBPwaacJzBPwaacKbBQeaacKdBQgbacKdBSiaacKbBPgaacKdBPgaacKfBP",
    "gaacKhBPqaacKbBOyaacKdBOyaacKfBOyaacKhBPibacKbBOuaacKbBOmaacKdBOmaacKfBOmaacKhBOmaacKjBOucacKdBN",
    "yaacKfBNyaacKhBNyaacKjBOiaacKdBNsbacKhBOcaacOrBNsaacMhBNqaacOvBNsaacMlBNqaacOzBQeaacMpBQcaacOzBN",
    "aaacMpBMyaacPdBMyaacMtBMwaacPhBNeaacMxBNcaacPlBNkaacNbBNiaacPnBNgaacNdBNecacPtBMiaacNjBMgaacPxBM",
    "iaacNnBMgaacQbBMgaacNrBMeaacQfBOqaacNvBOoaacQjBMiaacNzBMgaacQjBLkaacNzBLiaacQnBLoaacOdBLmaacQrBL",
    "maacOhBLkaacQvBNuaacOlBNsaacQxBKuaacOnBKscacRdBKoaacOtBKmaacRhBKmaacOxBKkaacRlBKmaacPbBKkaacRpBM",
    "yaacPfBMwaacRtBKgdacRzBJoaacPpBJmaacSbBMgaacPrBMebacSfBJcaacPvBJaaacSjBLwaacPzBLuaacSnBJqaacQdBJ",
    "oeacSvBIiaacQlBIgaacSzBLcaacQpBLaaacTdBIwaacQtBIudacTlBHwaacRbBHuaacTpBHwaacRfBHuaacTtBIcaacRjBI",
    "acacTvBHaaacRlBGyaacTzBJuaacRpBJsaacUdBHoaacRtBHmaacUfBGoaacRvBGmaacUjBGmaacRzBGkaacUnBJeaacSdBJ",
    "caacUrBGyaacShBGwaacUtBIwaacSjBIuaacUxBGqaacSnBGocacVdBFqaacStBFoaacVhBFoaacSxBFmaacVlBFoaacTbBF",
    "maacVpBFsaacTfBFqaacVtBFqaacTjBFoaacVxBHsaacTnBHqaacVxBEqaacTnBEoaacVxBEmaacTnBEkaacWbBEuaacWbBE",
    "eaacTrBEcaacWfBEmaacTvBEkaacWjBEsaacTzBEqBhacZxBDeaacXnBDcnacBApBCaaacYfBByBcacBElYoaacBCbYmaacB",
    "DzYkaacBBpYiaacBDrYgaacBBhYeaacBDjYcaacBAzYaaadBDnXqXiaadBBdXoXgaadBDrXmWyaadBBhXkWwaadBDvXiXqaa",
    "dBBlXgXoaadBDzXeWoaadBBpXcWmbadBFtWyWqaadBDjWwWoaadBFxWsWmaadBDnWqWkaacVvWiaacTlWgcacBFxWqaacBDn",
    "WoaacBFtWmaacBDjWkaacBFpYmaacBDfYkaadBFtYiVoaadBDjYgVmaacEfWaaacMoVyaacBDzVwdacBGzUsaacBEpUqcacB",
    "GtUiaacBEjUgaadBHxUyUgaadBFnUwUeaacXvUcaacVlUaaacWpTyaacUfTwaacBIjUwaacBFzUuaacBInUwaacBGdUuaacB",
    "IjUoaacBFzUmaacBInUoaacBGdUmaacBIjUgaacBFzUeaacBInUgaacBGdUeaacBIfTyaacBFvTwaacBIjTyaacBFzTwaacB",
    "IhTqaacBFxToaacBIlTqaacBGbToaacBIjTiaacBFzTgaacBInTiaacBGdTgaacBIvUuaacBGlUsaacBIxUqaacBGnUocacB",
    "KdSiaacBHtSggacBLhRiaacBIxRgaacBLdTqaacBItToaadBKnRcQuaadBIdRaQsaadBKrQoQqaadBIhQmQoaacBKvQsaacB",
    "IlQqaadBKzQoQiaadBIpQmQgaacBKjQeaacBHzQcKibbExbabDraacEpFdBvabOjjabCMfgacCEjKdaacwKfaabCDjaacBaK",
    "jaacBcKlaacBeKnbacBmKrbacBuKvaacCaKxaadDeKlKzzacBhMlaaclMnaackNdaacqNfaacsNhaacuNjaadBqMxNlzacBh",
    "OxaaclOzaaczPpaacpPraacjPteacbQdaacdPrBracBqTraacBoTdbacBgTvdacbTpeacBcUnaacwUraacBqUhkacbVdBfac",
    "bXpwacCbZvaacCdZhbacClZzdacbZteacCpBAraacCvBAvaacCbBAlxacdBBpaacdBBrCvacNdBIbaacKtBIdnacOtBJfaac",
    "MjBJhaacOxBJfaacMnBJhcacOvBJraacMlBJtcacdBJvaacdBJxaacPfBJzaacMvBKbaacPhBKdaacMxBKfcacPnBKtaacNd",
    "BKvaacPrBKpaacNhBKraacPjBKtaacMzBKvcacdBLbaacdBLdaacOrBLfaacMhBLhaacPpBLraacNfBLtaacPtBLnaacNjBL",
    "paacPxBLlaacNnBLnaacPtBLvaacNjBLxcacPtBMdaacNjBMfLkackDuaaciDuaacCuDsaaceDsaacCuDoFxacBqIhbacbIl",
    "qacbJtWzacbBmhacbwcacbqBjacFdCdaacFdCfaacFdChaacEvCjaacEnClaacEnCnaacDxCpaacDrCrEdachzaacjwpacEn",
    "ClaacEnCnbacDrCrDfacbscacemBiacFdCfaacFdChaacEvCjcacDxCpIzacbBccachzaacjwpacEnClaacEnCnCcacdFeCb",
    "achxaachzaaclwEtacdBcEpacbBqgacbBcaacdBcbachpaadjruEwachxaachzaaclwFlacbBfbacfzaadhBbBlaacjcNsac",
    "bIyjacbIeeacbHueacbHkeacbHamacDdFwjacdbbachbaacEqubacEoqiacBfbracbCujacbCaeacbBqeacbBgeacbwmacDd",
    "hEeacbqEDbacbDqbacbDmbacbDibacbDebacbDadacbCsBoacblbacbpcacdvaacdxbacbBbBAyacWNtUIvaacWLjUIxaacW",
    "NvULhaacWLlULjaacWNzUJhaacWLpUJjaacWOdUIjaacWLtUIlaadWOfUJhUMfaadWLvUJjUMhaacWOhULxaacWLxULzaacW",
    "OlUJxaacWMbUJzaacWOpUIzaacWMfUJbaacWOtUJxaacWMjUJzaacWOxUJpaacWMnUJraadWOzUMxUNfaadWMpUMzUNhaadW",
    "PdUNbUNhaadWMtUNdUNjaacWPhUKbaacWMxUKdaacWPlUJzaacWNbUKbaadWPpUKvUNjaadWNfUKxUNlaacWPrUNlaacWNhU",
    "NnaacWPtUNvaacWNjUNxaacWPvUNtaacWNlUNvaacWPzULtaacWNpULvaacWQdUNzaacWNtUObaacWQhULtaacWNxULvaacW",
    "QlULjaacWObULlaacWQnULjaacWOdULlaadWQrUOpUPdaadWOhUOrUPfaacWQrUPhaacWOhUPjaacWQvUMvaacWOlUMxaacW",
    "QzULxaacWOpULzaacWRbUNdaacWOrUNfaadWRfUNhUPraadWOvUNjUPtaacWRjUMjaacWOzUMlaacWRnUMvaacWPdUMxaacW",
    "RpUQjaacWPfUQlaacWRtUQbaacWPjUQdaacWRxUObaacWPnUOdaacWRzUQjaacWPpUQlaacWSdUOjaacWPtUOlaacWShUNla",
    "acWPxUNnaacWSlUNxaacWQbUNzaadWSnURhURlaadWQdURjURnaadWSrURlURbaadWQhURnURdaadWSvURnURvaadWQlURpU",
    "RxaadWSzURrURxaadWQpURtURzaacWTbUSbaacWQrUSdaacWTfURtaacWQvURvaacWTfURxaacWQvURzaacWTjUPxaacWQzU",
    "PzaadWTnUQbUSlaadWRdUQdUSnaacWTrUPdaacWRhUPfaacWTtUSnaacWRjUSpaacWTxUQnaacWRnUQpaadWUbUThUSvaadW",
    "RrUTjUSxaadWUfUSpUSzaadWRvUSrUTbaadWUjUQzUTdaadWRzURbUTfaacWUlUThaacWSbUTjaacWUpURhaacWSfURjaacW",
    "UtUQjaacWSjUQlaacWUxUQvaacWSnUQxaacWUzURraacWSpURtaacWVdUQxaacWStUQzaacWVhURhaacWSxURjaadWVlUUrU",
    "UvaadWTbUUtUUxaadWVpUUtUUlaadWTfUUvUUnaacWVrUUzaacWThUVbaacWVvUSraacWTlUStaacWVxUVnaacWTnUVpaacW",
    "WbUVpaacWTrUVraacWWfUVfaacWTvUVhaacWWjUVlaacWTzUVnaacWWnUTlaacWUdUTnaacWWpUVtaacWUfUVvaacWWtUVva",
    "acWUjUVxaacWWvUWbaacWUlUWdaacWWxUWpaacWUnUWraacWXbUUfaacWUrUUhaacWXfUThaacWUvUTjaacWWhUTlaacWVlU",
    "WraacWVhUWpaacWVfUWrbacWBfUXbeacXAbUVhaacWXrUVjaacXAfUXlaacWXvUXnaadXAjUYdUYfaadWXzUYfUYhaadXAnU",
    "YhUYlaadWYdUYjUYnaadXArUYlUXxaadWYhUYnUXzaadXAvUYpUYnaadWYlUYrUYpaadXAzUWfUYtaadWYpUWhUYvaadXBdU",
    "YpUYzaadWYtUYrUZbaadXBhUYtUZfaadWYxUYvUZhaadXBlUYxUYraadWZbUYzUYtaadXBpUZbUZhaadWZfUZdUZjaadXBtU",
    "WzUZfaadWZjUXbUZhaacXBpUXdaacWZfUXfaacXBtUZhaacWZjUZjaacXBxUZxaacWZnUZzaadXCbVAdVAfaadWZrVAfVAha",
    "adXCfVAhVAlaadWZvVAjVAnaadXCjVAlUZxaadWZzVAnUZzaadXCnVApVAnaadXAdVArVApaadXCrUYfVAtaadXAhUYhVAva",
    "acXCnVAjaacXAdVAlaacXCrUYnaacXAhUYpaacXCjUYraacWZzUYtaacXCnVAvaacXAdVAxaadXCrVBnVBpaadXAhVBpVBra",
    "adXCvVBrVBvaadXAlVBtVBxaadXCzVBvVBhaadXApVBxVBjaadXDdVBzVBxaadXAtVCbVBzaadXDhUZpVCdaadXAxUZrVCfa",
    "adXDlVAjVCjaadXBbVAlVClaadXDpVAnVCpaadXBfVApVCraadXDtVArVCbaadXBjVAtVCdaadXDxVAvVCraadXBnVAxVCta",
    "adXEbVAzVAjaadXBrVBbVAlaacXDtVAnaacXBjVApaacXDxVCraacXBnVCtaadXEbVBlVDlaadXBrVBnVDnaadXEfVBpVDra",
    "adXBvVBrVDtaadXEjVBtVDdaadXBzVBvVDfaadXEnVBxVDtaadXCdVBzVDvaadXErVCbVBlaadXChVCdVBnaacXEnVEhaacX",
    "CdVEjaacXErVBtaacXChVBvaacXEvVDxaacXClVDzaacXEzVEnaacXCpVEpgacURtVDxaacURvVDxaadURxVEbVFnaadURzV",
    "EbVFpaadUSbVEfVFpaadUSdVEfVFraadUSfVEjVAtaadUShVEjVAvaacUUvVEnaacUUxVEnaadUUzVErVGdaadUVbVErVGfa",
    "adUVdVEvVGfaadUVfVEvVGhaadUVhVEzVBjaadUVjVEzVBlaacUSrVFdaacUStVFdaadUSvVFhVGtaadUSxVFhVGvaadUSzV",
    "FlVGvaadUTbVFlVGxcacUVtVFtaacUVvVFtaadUVxVFxVHjaadUVzVFxVHlaadUWbVGbVHlaadUWdVGbVHncacUTtVGjaacU",
    "TvVGjaadUTxVGnVHzaadUTzVGnVIbaadUUbVGrVIbaadUUdVGrVIdaadUUfVGvVDfaadUUhVGvVDhaacUWvVGzaacUWxVGza",
    "adUWzVHdVIpaadUXbVHdVIraadUXdVHhVIraadUXfVHhVItaadUXhVHlVDvaadUXjVHlVDxaacUUvVHpaacUUxVHpaadUUzV",
    "HtVJfaadUVbVHtVJhaadUVdVHxVJhaadUVfVHxVJjaadUVhVIbVElaadUVjVIbVEnaacUXxVIfaacUXzVIfaadUYbVIjVJva",
    "adUYdVIjVJxaadUYfVInVJxaadUYhVInVJzaadUYjVIrVFbaadUYlVIrVFdaacUVpVIvaacUVrVIvaadUVtVIzVKlaadUVvV",
    "IzVKnaadUVxVJdVKnaadUVzVJdVKpcacUYrVJlaacUYtVJlaadUYvVJpVLbaadUYxVJpVLdaadUYzVJtVLdaadUZbVJtVLfc",
    "acUWjVKbaacUWlVKbaadUWnVKfVLraadUWpVKfVLtaadUWrVKjVLtaadUWtVKjVLvaadUWvVKnVGxaadUWxVKnVGzbacUZnV",
    "KrbadUZrVKvVMjbadUZvVKzVMlbadUZzVLdVHpaacUXhVLhaacUXjVLhaadUXlVLlVMxaadUXnVLlVMzaadUXpVLpVMzaadU",
    "XrVLpVNbaadUXtVLtVIdaadUXvVLtVIfaacVAjVLxaacVAlVLxaadVAnVMbVNnaadVApVMbVNpaadVArVMfVNpaadVAtVMfV",
    "NraadVAvVMjVItaadVAxVMjVIvaacVAjVNzaacVAlVNzaacVAfVOdaacVAhVOdaacVAfVOhaacVAhVOhaacVAfVOlaacVAhV",
    "OlaacUZxVOpaacUZzVOpaacUZpVOtaacUZrVOtaacUZlVOxaacUZnVOxcadVBpVNtVJxaadVBrVNtVJzaaeVBtVNxVPjVKba",
    "aeVBvVNxVPlVKdaaeVBxVObVPlVKfaaeVBzVObVPnVKhaaeVCbVOfVKpVKjaaeVCdVOfVKrVKlaadVErVOjVKnaadVEtVOjV",
    "KpaaeVEvVOnVPzVKraaeVExVOnVQbVKtaaeVEzVOrVQbVKvaaeVFbVOrVQdVKxaaeVFdVOvVLfVKzaaeVFfVOvVLhVLbaadV",
    "CjVOzVLdaadVClVOzVLfaaeVCnVPdVQpVLhaaeVCpVPdVQrVLjaaeVCrVPhVQrVLlaaeVCtVPhVQtVLnaaeVCvVPlVLvVLpa",
    "aeVCxVPlVLxVLraadVFlVPpVLtaadVFnVPpVLvaaeVFpVPtVRfVLxaaeVFrVPtVRhVLzaaeVFtVPxVRhVMbaaeVFvVPxVRjV",
    "MdaaeVFxVQbVMlVMfaaeVFzVQbVMnVMhaadVCfVQfVMjaadVChVQfVMlaaeVCjVQjVRvVMnaaeVClVQjVRxVMpaaeVCnVQnV",
    "RxVMraaeVCpVQnVRzVMtaaeVCrVQrVNbVMvaaeVCtVQrVNdVMxaadVFhVQvVMzaadVFjVQvVNbaaeVFlVQzVSlVNdaaeVFnV",
    "QzVSnVNfaaeVFpVRdVSnVNhaaeVFrVRdVSpVNjaaeVFtVRhVNrVNlaaeVFvVRhVNtVNnaacVFhVSlaacVFjVSraadVFlVTbV",
    "NtaacVFnVNvaadVFpVTdVNxbacVFtVOhaadVFvVOjVOdaacVIjVTbaacVIlVThaacVInVTraacVIpVTraacVIrVOnbabVFtc",
    "acXOjVPdaadVGfVUhVOzaacVGhVPbaadVGjVUjVPdbacVGnVPnaadVGpVPpVPjaacVJhVUtaacVJjVUtaacVJhVUxaacVJjV",
    "UxaacVJlVPtaacBbVVdaacBdVVdaacBfVQfaacVHdVUxaacVHfVVdaadVHhVUxVVnaadVHjVUzVVncacVHpVQtaadVHrVVhV",
    "QvaacVKfVVnaacVKhVVtaacVKjVWdaacVKlVWdbacCoVWjaacCmVWjaacCkVRlaacVHlVWdaacVHnVWjaadVHpVWdVWtaadV",
    "HrVWfVWtaacVIbVVlaacVIdVVlaacVHxVRzaadVHzVWnVSbaacVKnVWtaacVKpVWzaacVKrVXjaacVKtVXjaacVLdVVzaacX",
    "RtVXpaacXRvVXpaabXXlcadVInVXzVSraacVIpVStaadVIrVYbVSvbacVIvVTfaadVIxVThVTbaacVMfVYlaacVMhVYlaacV",
    "LpVYpaacVLrVYpaacVLtVTlaabXSbcbbeLgabWIrdabYXhaacYYdWVhEgactXAhaacrXAjsacBzXBvBeacgXEfaacmXEhaac",
    "gXEjCaacbXIleacbXIvcacbXJbxacbXKxbacbXLbBaacjXNdcacbXNjcacdXNpbacbXNtwacZWfXPnbacbXPrkacClXQnaac",
    "ZXjXQpaacZXhXQraacxXQtaacxXQvcacdXRbaacdXRdcacdXRjaacdXRlgaclXRzaaclXSbcacdXShaacdXSjcacdXSpaacd",
    "XSrBiactXVjaacjXVlaacjXVnaachXVpBwacHrXZjaacHrXZlaacGfXZnaacGfXZpgacEhYAdaacEhYAfaacEhYAhaacEhYA",
    "jChbbJTmCXtaccBEApCBnacbFybacbFubacbFqbacbFmbacbFibacbFebacbFabacbEwbacbEsbacbEobacbEkbacbEgcacb",
    "EabacbDwbacbDsgacbDeaacdDebacbCyaacdCybacbCsaacdCsbacbCmaacdCmbacbCgaacdCgwacFzkjacbjnacbBlbacbB",
    "pbacbBtbacbBxbacbCbbacbCfbacbCjbacbCnbacbCrbacbCvbacbCzbacbDdcacbDjbacbDnbacbDrgacbEfaacdEfbacbE",
    "laacdElbacbEraacdErbacbExaacdExbacbFdaacdFdwacFzGzcacpHfaacpHhaacpHjaacpHldacbHtCXThabDEIxaabEGQ",
    "baabDCLraabDDZhaabEARlaabEZJxaabEVBtaabCPSvaabCPSxaabEQZfaabDAEraabETVzaabERAdaabEKLhaabDUYraabD",
    "OBjaabDIYzaabDHVxaabDGXnaabDBEdaabEEJjaabECAlaabDZEvaabDWXlaabDKNdaabDANtaabCUBxaabEZFlaabEVMbaa",
    "bEDQfaabDYGraabDJBnaabCQYdaabEOAjaabDZYbaabDJJfaabDGQpaabEJWxaabDMJjaabDHPvaabEMXvaabEGQlaabEBVz",
    "aabDXQjaabDBBfaabEYMvaabEWVtaabEVZdaabEIKtaabEDVnaabDYJbaabDURvaabDNUraabDJGfaabDIZraabDDGpaabCW",
    "GhaabCTAxaabCRCxaabDTMbaabDSTlaabDPQfaabDKYzaabCZLdaabCQTdaabDFQjaabERMjaabEMVlaabDQPjaabDNMjaab",
    "DYEhaabDTIfaabDEFbaabCWMdaabERNnaabEOVxaabEEMjaabEBQbaabEASjaabDQAhaabDPGbaabCWZzaabEWCtaabDNMla",
    "abEWVvaabEWXdaabDSJjaabDPPxaabDKXxaabCWXjaabDFFfaabEKApaabEEOxaabDFPlaabEZQfaabEPGxaabEMCxaabDXJ",
    "vaabDVYhaabEVYtaabDTGraabEYMtaabEMLlaabEZUhaabECMxaabEIBhaabDQDjaabEVMdaabERZnaabDUUhaabDKSvaabD",
    "FXhaabEDIpaabDCCnaabECSxaabEJYvaabDLUraabEJMnaabDWAraabEZJdaabEXHlaabEXAdaabEFUvaabDQJfaabDMEjaa",
    "bDFVhaabDANtaabEWDnaabEVDzaabERFvaabENCdaabEHXjaabEAEdaabDTFpaabCXQfaabCUAzaabCQWvaabCQSraabEWLh",
    "aabEHEfaabEDPxaabDCKraabENMhaabELDdaabEKUpaabEIVlaabEAWbaabDZFvaabDWTxaabDSUnaabDPQpaabDNTvaabDC",
    "QdaabDKJlaabDBWvaabCZMvaabEWWvaabEWMdaabEUWvaabDZQraabDHMpaabDGBdaabENHhaabEMKhaabEJSzaabEDNpaab",
    "DQZnaabDXQpaabEZItaabETFraabEPMraabEOCvaabEMHzaabDXMjaabDWYjaabDOMbaabDNYxaabDAJxaabCWUhaabCWOba",
    "abCVYdaabEYWxaabDSZfaabDAUfaabCWZnaabELTvaabEZRjaabEXXpaabEPNnaabEPHjaabEIFhaabEEWnaabDYZbaabDVP",
    "laabDKLnaabDBTdaabCQInaabEHNlaabCXLfaabEWRjaabEGUzaabEGLvaabECLlaabEBKvaabDXIbaabDWIhaabDTZxaabD",
    "QMnaabCVUxaabEXNzaabEKWdaabCXGnaabEYMzaabEOSlaabEBZjaabDCUraabEMWnaabELOraabEGKjaabDXTfaabCXGdaa",
    "bEXAlaabEVPdaabEPHbaabEHYnaabEHAjaabEFZvaabECUlaabDXKdaabDVZpaabDOSvaabDHRbaabDHPtaabDAWfaabCXAd",
    "aabEWGdaabEBLbaabEVPfaabDZClaabDWZtaabDJVnaabCXFnaabCSXhaabCRElaabEGWfaabECEdaabDMYdaabDSIhaabDS",
    "BvaabDQZlaabDYKxaabEABjaabDFUtaabEZSbaabDLZbaabEXBtaabEXFtaabENRhaabEKNdaabDQUzaabEQBdaabECSraab",
    "EHPbaabDCXbaabDIDraabCXNzaabDHFhaabENOpaabEXVzaabEULlcabESMlbabEHUxcabEXKnaabDYExaabDVLpaabDTPna",
    "abDTMzaabDTMnaabDTJjaabCWVbaabDQYvaabDORxbabDJXjbabDGFbcabDCFxaabDBQvdabCVQraabCVPtaabCVMlaabCSA",
    "zaabDBTvaabCXItaabEZDraabEYFraabEXXxaabEWUtaabEWStaabEWKlaabEURhaabEUJhaabEUBvaabESRpaabESJraabE",
    "POfaabEPNnaabEMJxaabELTraabELQvaabELJfaabEIVbaabEIJvaabEHWlaabEGKbaabECQtaabECEhaabEBKbaabDZQxaa",
    "bDZClaabDXPvaabDUGpaabDTTjaabDTSpaabDTStaabDTSfaabDTRvaabDTRjabbDTNtaabDTAdaabDSVfaabDRWtaabDQFl",
    "aabDQDxaabDPZraabDPChaabDORbaabDNFpaabDMUxaabDMUzaabDLKhaabDHVjaabDHLdaabDGJhaabDGFbaabDEZpaabDE",
    "VpaabDCUxaabDCKzaabCXJtaabCWNzaabCWJlaabEMPvaabJOVcaabDNDpcabFAMtaabEXUtaabEYAtaabEZMjaabEYDpaab",
    "EXZdaabEXAbaabEWWfaabEUWjaabEVBzaabEUWvaabEURhaabESUtaabESNzaabESCxaabESBtaabERHbaabEQRxaabENXva",
    "abENXjaabENMjaabENHfaabEMKhaabEMBhaabEMGtaabELWnaabEMAdaabELOzaabELJzaabEKFhaabEJYpaabEJUnaabEJA",
    "paabEIEraabEHSfaabEHRzaabEHNnaabEEKdaabEEFfaabEDBfaabEBVtaabEBXbaabEBQlaabEAXdaabDZXjaabDVExaabD",
    "ZIfaabDYYxaabDYPnaabDXQlaabDXFbaabDXBbaabDWJtaabDWJraabDVWpaabDVVjaabDVTnaabDVMzaabDVNvaabDUJlaa",
    "bDSYfaabDSDlaabDRPdaabDQXzaabDQMhaabDPMzaabDOXtaabDMKvaabDLYvaabDJHfaabDHYfaabDHSzaabDHRvaabDGVb",
    "aabDGQtaabDGUhaabDGQfaabDGQnaabDGRxaabDGMdaabDGFzaabDFCraabDDLraabDCNpaabDBQzaabDBAbaabCXYxaabCX",
    "RbaabCXIhaabCWYdaabCWVlaabCWUpaabCWQzaabCUNdaabCRBvaabIUIwaabIUIiaabJDCaaabFOVhaabFLLdaabFLIraab",
    "KADkaabKICqaabLHWiaabCRJlaabCRDtCpacHDTvHDWrbacHDSbHDWpkacHDTpHDWraacHDTrHDWraadHDTtHDXfHDWvaadH",
    "DTvHDXhHDWvaacHDVvHDXtaacHDVxHDXtaacHDVzHDXnaacHDVzHDXpaacHDVzHDXraacHDVzHDXtaacHDVzHDXvaacHDVzH",
    "DXxaacHDVzHDXzbacHDVzHDYdaacHDVzHDYfaacHDVzHDYhaacHDVzHDYjaacHDVzHDYlbacHDVzHDYpbacHDVzHDYtaacHD",
    "VzHDYvbacHDVzHDYzaacHDVzHDZbbacHDVzHDZfaacHDVzHDZhaacHDVzHDZjaacHDVzHDZlaacHDVzHDZnaacHDXrHDZvaa",
    "cHDYbHDZlaacHDXjHDZnaacHDWtHDZpIBracbCmbacbCioaclBeFaacgnaacgpUtachzaacjwOcacdbaacfxbacjbJracdva",
    "acdxBIiacfpCRTdacnoaacnmaadpkBcaadriBcaadtgBcaadveBcaadxcBcDiacdGpaacdGraadhGtGbaadhGvGdaadlGxGd",
    "aadlGzGfEHLfabTWJlaabTWJxaabTWJhaabHEZpaabTVNjaabTVHlaabTVGnaabTVBdaabTURzaabTUPraabTUJtaabTULra",
    "abUPUxaabHBEbaabTUCfaabTUBtaabTUApaabTTZfaabHCAlaabUPTjaabTUAraabTTXvaabHBXdaabTTXfaabTTWhaabTWA",
    "jaabTTVvaabTTVfaabCZLhaabTTQlaabTTPlaabUPRjaabTTLhaabTTKnaabTTHfaabTTGxaabUPNpaabTTAxaabTTAvaabT",
    "SYvaabTSXfabbTSWlaabTSVfaabTSRlaabTSQxaabTSQhaabTSOlaabTSNtaabTSNraabTSNtaabTSNvaabGYHjaabSWQbaa",
    "bTSIhaabTSGtaabGXJtaabTSFzaabTSFpaabTSEbaabTRSlaabTSAjaabTRZfaabTRWvaabTRSlaabTRMbaabTRKdaabTRFb",
    "aabTRDxaabTRBlaabTRBnaabTQZzaabTQYraabTQYdaabTQXbaabTPWzaabTQRzaabTPXbaabTQMjaabTQJtaabTTSzaabTO",
    "NdaabTPJjaabTPGnaabTPEraabTPOtaabTPBzaabTPCdaabTOStaabGQHdaabTONnaabTONfaabTOMdaabTOKraabTOKdaab",
    "TOFhaabGOYxaabGOTxaabTNUxaabTNRjaabTNQnaabTNWraabTNLvaabUOIjaabUOHjaabTMZpaabTMVnaabTMVpaabGMQha",
    "abTMLnaabTMJzaabTMIxaabTMIbaabGLQvaabTMHhaabTMGvaabTJTxaabTMEvaabUNYfaabTMAfaabTLZfaabTLSzaabTLW",
    "zaabGJOnaabTLJdaabGJOnaabTLFzaabTLGhaabTLFbabbTKXjaabUNLvaabTKVlaabTKSfaabTKQraabTKNjaabUNIhaabG",
    "GWhaabUNGlaabTKIfaabTKIbaabTKHxaabTKGlaabCMJpaabTKCpaabGFPvaabGFPxaabSJPjaabTKAdaabTKAfaabUNBpaa",
    "bFTWnaabEKElaabTJVpaabTJUzaabUMZvaabTJRnaabTJNraabTJMzaabTJKlaabTJAbaabUMTpaabUMVzaabTIYvaabGCXr",
    "aabTIVbaabTILfaabTIKzaabTIKxaabTILdaabTIHraabTIGfaabTIDnaabTIEraabTIDxaabTIAjaabTHYxaabTHYraabTH",
    "WtaabTHVzaabTHQzaabTHKpaabTHHzaabTGYnaabFZUdaabTHAdaabTHFfaabTGWzaabTGUzaabTGNpaabFZCzaabTGIzaab",
    "TGQfaabTGSlaabUMDjaabTGDvaabTGChaabTFZzaabTGCzaabULYzaabTFMnaabTFKjaabFWBfaabTFBjaabTEGdaabTETra",
    "abULMfaabTEOhaabULNraabULQnaabTULzaabTULvaabTEGdaabTENxaabSKUraabUEWpaabTEEraabTEElaabTEEbaabTDZ",
    "laabTEAjaabFTHjaabULJtaabTDNtaabTDWvaabTDHdaabTDDhaabFSUtaabTDCtaabTDLjaabTCSpaabULDzaabTCPfaabT",
    "CHvaabTCClaabTBNxaabFRDxaabTBKdaabUKVbaabTBExaabFPQnaabTBBdaabUKRfaabTAYzaabTAVpabbTATpaabFOFraa",
    "bGKOvaabFNXlaabTAIpaabFMOzaabTAAbaabSZZbaabTAGzaabSZTpaabSZQpaabSZMhaabSZQnaabSZNnaabSZMlaabSZLn",
    "aabFMIhaabSZRxaabSYYraabSYTxaabUKBlaabSYMxaabSYNhaabFLBjaabSZDhaabSYAraabFKQtaabFKNdaabSXUdaabSX",
    "LjaabSXNnaabSXNvaabUJUtaabSXKjaabSXGnaabSXHbaabSXCzaabHCUdaabSWRlaabFIKhaabSWKxaabFHLfaabSWAhaab",
    "SVZjaabSVXjaabFFQzaabSVTvaabSVShaabFEUbaabFECzaabSVAxaabSUZraabUJAxaabSUXvaabUJAdaabUJAfaabSULpa",
    "abSUKbaabSUInaabSUHbaabSUBvaabUITbaabSTVbaabFBAraabSTTfaabFATtaabSTPnaabGHHraabSTDjaabEYLvaabEYK",
    "daabEXZlaabUICpaabUIBtaabSSMhaabEXMhaabEXMlaabEXJnaabEXHpabbSSJlaabSSJnaabSSGhaabUHYtaabSSBlaabU",
    "HXxaabUHRvaabEVCxaabSRMtaabSRIbaabSRDfaabUHMhaabETPfaabSQSvaabETGlaabETDfaabSQOraabSQHraabUHGzaa",
    "bSQBhaabSQApaabSQAhaabERChaabEQFjaabEQFlaabSPOjaabUGRjaabEPLraabSOXzaabSOXvaabUGOvaabEOVpaabSODr",
    "aabUGFtaabSOCdaabSOCpaabSOAlaabEMOnaabSNSzaabUFYtaabSNLlaabSNGzaabSNBxaabUFVdaabEKPfaabEKMxaabUF",
    "SnaabEKBvaabSMEpaabEJUfaabSMCraabSLUzaabSLUfaabEIOvaabEIJhaabSLNlaabEHZfaabSLMjaabFUBpaabUFJzaab",
    "SLHnaabSLBjaabUFGbaabSKWzaabTOBxaabEGMpaabEGLpaabFTYhaabFTXraabSKIlaabSKIhaabSAAnaabUEZlaabSJXra",
    "abSJYfaabSJWxaabTUEnaabSJVnaabSJVlaabSJUtaabSJRraabEDVhaabSJRxaabSJNraabSJIjaabSJCtaabSJNlaabSJB",
    "raabSIYnaabSIPzaabSJKbaabSJAzaabSJAxaabSIZtaabEDDbaabECFjaabECQzaabUEMpaabSIEvaabSIEtaabSICdaabD",
    "XKjaabSHWhaabEAXlaabUEJhaabUEJbaabEANlaabDZRhaabUEInaabSHEraabSHDvaabSHDbaabSHCzaabSGYdaabSHAtaa",
    "bSGQnaabSGTzaabSGIlaabSGOtaabSGJraabSGHraabUEBfaabSGAvaabSFYlaabUDYvaabSFRhaabSFRdaabDVMxaabSFIj",
    "aabSFHxaabUDUraabSFFxaabURAzaabDTUnaabDTGlaabUDKnaabUDJxaabSDZxaabSDUbaabSDIbaabSCSnaabDQUvaabSC",
    "MbaabSCKlaabSCDpaabSBWpaabDOXlaabHBEfaabSBQjaabSBRpaabSBNraabHANtaabSAWhaabSAOraabDJXjaabDJVjaab",
    "RZOdaabRZHbaabRZEraabDIWzaabRZEbaabRYIfabbRXWbaabRYDfaabRWZzaabRWXxaabDFHdaabRVVhaabUBJfaabRVSba",
    "abDEEdaabUBDfaabRUXraabTMDnaabRUQlaabDBHpaabDARhaabUATfaabUASraabRUChaabCZFlaabUAOhaabCYUvaabRTZ",
    "haabRTZjaabRTXdaabCXYzaabRTJbaabUAExaabRTDtaabRSUdaabRSSdaabRSNpaabTZTjaabCTVtaabRRSpaabRQVlaabR",
    "QGzaabTZAbaabTYXtaabRPZbaabCPPraabTYXdaabCPLpaabCORhaabCOHhaabROZjaabTYQhaabROUtaabROUlaabROTzaa",
    "bROThaabROSvaabROQbaabCLSj"]

/-- The classes of the marks; every other character has class zero. -/
def markClassTable : RunMap := .ofTable
  ["BDoubIwaabIyadbImaabIyaabIiaebImabbHuadbImabbHuakbImaebbadbImahbIwaabJgaabIwacbImacbIwabbImbcbIw",
    "adbImaabIwaabIyabbImaabIwaabIzabbJaaabIzabbJaaabIzambIwKpebIwKfabImadbIwaabImacbIwaabIoaabImafbI",
    "wafbImabbIwaabImabbIwaabIoaabIuaabIwaabkaablaabmaabnaaboaabpaabqaabraabsabbtaabuaabvaabwbabxbaby",
    "aabzbabIwaabImbabsCuhbIwaabBeaabBfaabBgBwabBbaabBcaabBdaabBeaabBfaabBgaabBhaabBiabbIwabbImaebIwa",
    "abImabbIwaabImqabBjDxgbIwcdbIwaabImaabIwcbbIwbabImabbIwaabImBjabBkBeabIwaabImabbIwaabImabbIwacbI",
    "maabIwabbImaabIwaabImacbIwaabImaabIwaabImaabIwaabImaabIwaabImabbIwGegbIwaabImaabIwjabImydbIwbibI",
    "wbcbIwbebIwBrcbImCiabIwacbImadbIwBqebIwaebImanbIwbabImabbIwaabImabbIwaabImacbIwacbImaabBbaabBcaa",
    "bBdacbIwaabImabbIwabbImaebIwCiabhqabjdabIwaabImabbIwDzabhqabjBwabIwCjabhqabjEgabhqabjEgabhqabjEx",
    "abjEgabhqabjhabDgaabDnDxabhqabjEfbbjqabjEuabjEfbbDzaabjndbEdEebbEoaabjndbEsCybbImBbabImbabImbabI",
    "iCdabEzaabFababFcfdbFacabFabbbIwaabjbbbIwCkabImEiabhbbbjDeabImBBrcbIwBKmbbjBeabjGbabjkabIwHvabIu",
    "FnabIoaabIwaabImIlabIwaabImCtabjuhbIwcabImBwebIwafbImabbIwaabImbbbImabbIwabbImaebIwaabImadbIwDxa",
    "bhpabjBmabIwaabImagbIwCcbbjCgabhlbbjCpabhFwcbIwbabbaebImabbIwadbImaabIwbgbbeabImgabIwdbbIwHqbbIw",
    "aabImagbIwaabImabbIwaabJaaabIgaabImaabHuaBkbIwaabIyabbIuaabImaabIkaabIwaabIzaabImaabIwaabImBBsbb",
    "IwabbbadbIwacbbabbIweabIwdbbbaabIwaabImaabIwabbbadbImaabIwEOccbIwFlabjDsBfbIwViabIkaabIuaabIyaab",
    "IoabbIqEbbbiBSQeabIwejbIwBgbbIwDcbbIwKqabjBlabjFvabjBbrbIwCfcbImBlabjDrabhmabjJfabIwbbbIwaabImcb",
    "bIwfbbIwbabIwCaabjJmabjBDZsabBaBDpgbIwagbImabbIwBLlabImIsabImFtebIwCMsabImbabIwBoabIwaabbaabImea",
    "bjGjabIwaabImWbdbIwOxbbIwFxbbImacbIwaabImaabIwadbImBxabIwaabImaabIwaabImHkabjBpabjoabjCfabjaabhC",
    "rcbIwBwbbjCkabhCyabjjabhEcabjaabhGwabhaabjDcbbhqabjygbIwdebIwHxabjdabhxabIwDvabjaabhJrabjaabhEwa",
    "bjEoabjaabhElabjKjabjaabhJybbjeabhGaabjDfabjsabjDdabjQfabjJyabhbbbjDdabjBDHoebbChgbIwBUnbbgBDAya",
    "bbHWobbIiacbbdabIsaebIiihbImcebIwabbImBedbIwFscbIwFFfgbIwbqbIwcgbIwbbbIwbebIwKbgbIwOlabIwCjdbIwC",
    "FwgbImEffbIwaabh"]

/-- The pairs of characters that compose, as one number each, with what they compose to as a
    difference from the first. -/
def composedTable : RunMap := .ofTable
  ["FQHIXkabZXkCLKClabZWgCLKClabZXiHIEFfabJuaabJwaabJyaabKaaabOsbabOwaabBLiaabKcaabXAgaabKebabBEmcab",
    "BIkbabBIorabXAcbabWNucabPaCLKBeabWNwBbabWOanabWOeCLKApabPaaabPeeabPieabPmBaabKeCLKBfabWOieabPowa",
    "bWOmdabWOufabWOydabWOqCLKAoabKcaabKeaabKgaabXByaabPubabPyaabQcaabKiaabXBucabQkcabBIkbabBIorabXBq",
    "dabBLeaabQgeabWPicabWPmCLKAwabWPsCLKCfabBHaaabQkbabWPubabQoaabQseabBFyBaabQwCLKBaabQyeabWPwaabWQ",
    "edabBKewabWQadabWQigabWQmCLKArabKcaabKeaabKgaabReaabRibabRmaabRuaabKiaabXCocabBEacabBIkbabBIorab",
    "XCseabRqhabWQoCLKArabSaCLKCkabWQskabBFuwabWQwdabScjabWRaCLKApabSgkabSowabWRcdabSkfabWRodabWRkCLK",
    "ApabWRqfabWRuBbabWRyCLKBcabBGuaabSwbabKcdabWSaeabTewabWSedabTafabWSmdabWSiCLKAoabKcaabKeaabKgaab",
    "KiaabTmbabTqaabBKwaabKkaabXCobabTuaabBDscabBIgbabBIkjabZyhabXCkeabBFqCLKAyabWTcfabWTgEWUErabTwfa",
    "bWTgeabUecabBIibabBImrabWTkdabUajabWTsCLKApabUgaabUkeabWTueabUswabWTycabBIwaabUoCLKBfabWUmeabUyw",
    "abWUqcabBIyaabUufabWUydabWUuCLKAoabKeaabKgaabKiaabVeaabVibabVmbabKkaabXDyaabVqaabVuaabBDkcabBIkb",
    "abBIojabBAqhabXDuaabWVadabVyeabWVicabWVeCLKAsabWVsBfabWVwCLKBcabWVyaabWWcaabVyeabWWkaabWWgBaabWW",
    "oCLKBjabWWqaabWWuCLKCdabXEoaabKeaabVyaabXFaaabBKkcabWWwaabWcaabXEwzabXEsCLKBdabWcaabWWyeabWgeabW",
    "kwabWXcnabWXgRBSPiabJuaabJwaabJyaabKaaabMibabMmaabBIyaabKcaabWXwaabKebabBCccabBGababBGerabWXsbab",
    "WLkcabMqCLKBeabWLmBbabWLqnabWLuCLKApabMqaabMueabMyeabNcBaabKeCLKBfabWLyeabNewabWMcdabWMkfabWModa",
    "bWMgCLKAoabKcaabKeaabKgaabWZoaabNkbabNoaabNsaabKiaabWZkcabOacabBGababBGerabWZgdabBIuaabNweabWMyc",
    "abWNcCLKAwabWNiCLKCfabBEqaabOababWNkbabOeaabOieabBDoBaabOmCLKBaabOoeabWNmaabWNudabBHuwabWNqdabWN",
    "ygabWOccabWWiCLKAoabKcaabKeaabKgaabOuaabOybabPcbabKiaabXAecabBBqcabBGababBGerabXAieabPghabWOeCLK",
    "ArabPqjabBEaCLKCaabWOikabBDkwabWOmdabPsjabWOqCLKApabPwkabQewabWOsdabQafabWPedabWPaCLKApabWPgfabW",
    "PkBbabWPoCLKBcabBEkaabQmbabKcdabWPqeabQuwabWPudabQqfabWQcdabWPyCLKAoabKcaabKeaabKgaabKiaabRcbabR",
    "gaabBImaabKkaabXAebabRkaabBBicabBFwbabBGajabXohabXAaeabBDgCLKAyabWQsfabWQwEWUErabRmfabWQweabRuca",
    "bBFybabBGcrabWRadabRqjabWRiCLKApabRwaabSaeabWRkeabSiwabWRocabBGmaabSeCLKBfabWScaabWVmdabSowabWSg",
    "cabBGoaabSkfabWSodabWSkCLKAoabKeaabKgaabKiaabSuaabSybabTcbabKkaabXBoaabTgaabTkaabBBacabBGababBGe",
    "jabYghabXBkaabWSqdabToeabWSycabWSuCLKAsabWTiBfabWTmCLKBcabWToaabWTsaabToeabWUaaabWTwbabWViyabWUe",
    "CLKBjabWUgaabWUkCLKCdabXCeaabKeaabToaabXCqaabBIacabWUmaabKiaabXCmaabWVgyabXCiCLKBdabTsaabWUoeabT",
    "weabUawabWUsnabWUwEIDWHiabXRuaabCEkCmabXOkCLKCJlabWQqaabWQmbabWQyfabWQuEWUEsabVsCLKCiabXuCLKClab",
    "XwcabVwCLKCiabWEcHIEHiabWSaaabWRwbabWSifabWSeMEYLzabWGkMEYMgabWSqaabWSmbabWSyfabWSuCLKCdabWIgcab",
    "BAkdabWIkCLKChabBAeEWUEuabWqJTOJuabTqaabTicabTehabTmOQIOhabWOgaabWOcbabWOofabWOkEWUEsabTiCLKCiab",
    "VkCLKClabVmcabTmCLKCiabWBsHIEHiabWPqaabWPmbabWPyfabWPuMEYLzabWEaMEYMgabWQgaabWQcbabWQofabWQkCLKC",
    "dabWFwcabYadabWGaCLKChabXuEWUEuabUgJTOJuabRgaabQycabQuhabRcOQIOhabWMmaabWMibabWMufabWMqCLKCcabWM",
    "maabWMibabWMufabWMqBKOVKoabVZgaabVZkCLKCkabVZgaabVZkFIZDKgabVZkaabVZoCLKCkabVZkaabVZoBFSBGfabVZw",
    "CLKClabVZwMEYMhabVZoCLKClabVZoRBSQzabWAiCLKClabWAiCLKCsabWAiCLKClabWAiBWTTXeabWBgDCLVCyabWDsaabW",
    "DobabWEafabWDwzabWEeCLKBcabWDsaabWDobabWEafabWDwzabWEeBIDLHcabWDqaabWDmbabWDyfabWDuzabWEcCLKBcab",
    "WDqaabWDmbabWDyfabWDuzabWEcRBSQiabEgEUIUVfabeCLKClabeFNVXPfabFjCLKClabFjCLKCnabVEmCLKClabVEmMEYM",
    "fabeCLKClabeJHJLJzabMnXXSADfabVIoaabvcabVImbabVIkmabUUwaabUUyBwabVIsJTOHeabVJiaabzrabUVuaabUVwEW",
    "UEdabVJiaabBbrabUWwaabUWyBwabVJmEWUCgabVKkaabBdcabVKibabVKgbabBikabUXyaabUYaOQINzabVMgaabBlrabUY",
    "saabUYuEWUExabVLeJTOJbabVKsaabBtcabVKqbabVKobabmlabUZoJTOJbabVLqaabBzrabVAkaabVAmBwabVLuHIEHjabV",
    "GaEWUExabVHcHIEEsabVAkaabjcabVFkbabVFimabURuaabURwBtabVFucabVFoJTOHeabVAgaabprabUSsaabUSuEWUEdab",
    "VAgaabrrabUTuaabUTwBtabVGocabVGiEWUCgabVAgaabtcabVHgbabVHebabBikabUUwaabUUyBtabVHqOQIMfabUZyaabB",
    "arabUVqaabUVsEWUEwabVIcaabVIeJTOJbabUZqaabqcabVHobabVHmbabmkabUWkaabUWmBtabVHyJTOHhabUZmaabkrabU",
    "XiaabUXkBtabVIwcabVIqCLJZuabVGaaabElCmabVGkCLJZxabVHeaabCbCmabVHoHIEHmabVIiJTOHfabcgabeEWUEXzabc",
    "YJWYnabOubabOyHIEHcabBfEWUEwabBpfabOwbabBnCLKCjabNebabPgCLKClabPiCLKCdabvdabPobabcbabPsEWUEqabBb",
    "JTOKcabPkMEYMdabPqbabBpbabPucabPyJTOJsabPuJTOJvabPuEWUExabOsHIEHhabMkbabMoHIEHcabCmEWUEwabCcfabM",
    "mbabCeCLKCjabKubabMwCLKClabMyCLKCdabCwdabNebabcbabNiEWUEqabCqJTOKcabNaMEYMdabNgbabCcbabNkcabNoJT",
    "OJsabNkJTOJvabNkEWUExabMiVYMWdabcCVDQWcabeCLKClabeJHJLJkabeCLKClabeBKOVKxabeCLKClabeBDVHNJeabjaa",
    "bhaabdDCLVDeabCtEWUExabCtLEDFGxabcBPLPPvabcHIEHjabBpCDUQBLfabcTNCTrabcHIEHjabcNWVMFhabiyabkBKAFC",
    "XaabixabcaabkHAWDHnabeEWUEXaabiyabmCLKBmabiLXQIGlabeLIZZQsabcRBSQmabisabcaabeJTOJuabcLQIDXgabiya",
    "bmCLKBmabiNRYSAtabceabgpabkHIEGoabcCCWGEHnabcKBBLBTmabcEWUExabcEWUExabcEWUExabcEWUExabcJTOJvabcD",
    "VYXWxabcEWUExabcEWUExabeCLKClabeHIEHjabcCSXDEKsabeCLKClabeDHIPIdabeCLKClabeRBSRiabmCLKClabmFSSRT",
    "yabydabBsCLKChabydabBsCEBYElabBcCLKClabBcBUIJUtabyCLKClabyEUIUVlabeaabiCmabmcabJwCLJZuabeaabiCma",
    "bmcabJwCLKClabJwCLKClabJwCLKClabJwCLKClabJwCLKClabJwCLKClabJwCLJZuabeaabiCmabmcabJwCLJZuabeaabiC",
    "mabmcabJwCLKClabJwCLKClabJwCLKClabJwCLKClabJwCLKClabJwCLKClabJwCLJZuabeaabiCLKCkabeaabiRBSReabea",
    "abiCLKCkabeaabiRBSReabeaabiCmabmcabIqCLJZuabeaabiCmabmcabIqCLKClabIqCLKClabIqCLKClabIqCLKClabIqC",
    "LKClabIqCLKClabIqCLJZuabeaabiCmabmcabIqCLJZuabeaabiCmabmcabIqCLKClabIqCLKClabIqCLKClabIqCLKClabI",
    "qCLKClabIqCLKClabIqCLJZuabeaabiCmabmCLJZxabeaabiCmabmRBSOrabeaabiCmabmCLJZxabeaabiCmabmRBSOrabea",
    "abiCLKCkabeaabiRBSReabeaabiCLKCkabeaabiRBSReabeaabiCmabmCLJZxabeaabiCmabmTNCRdabeaabiCmabmRBSOra",
    "beaabiCmabmcabEyCLJZuabeaabiCmabmcabEyCLKClabEyCLKClabEyCLKClabEyCLKClabEyCLKClabEyCLKClabEyCLJZ",
    "uabeaabiCmabmcabEyCLJZuabeaabiCmabmcabEyCLKClabEyCLKClabEyCLKClabEyCLKClabEyCLKClabEyCLKClabEyCL",
    "KClabFcJTOJvabGaTNCTrabJcFLKNMtabcVYMTmabBcaabBeCmabBgRBSRiabcENAQOdabcTNCRaabCnaabClCmabCjBLSCC",
    "BdabuEWUExabsEWUExabCaFQHHRrabfEWUExabfEWUExablEKPGLrabcMEYMhabcHIEHjabcCGNIHbabcEWUExabcCEBYEpa",
    "bkRBSRfabcEWUExabeHIEHjabcMEYMhabCmBWTTXfabcHIEHjabyCLKClabyBFSBFzabeCLKClabeHIEHjabeCLKClabeHIE",
    "HjabmCLKClabmCLKClabHsCLKClabHsMEYMhabeCLKClabeHIEHjabeCLKClabeYJWYpabGgCLKClabGgBNAFNjabuOQIOta",
    "bkCLKClabkEWUExabiRBSRfabEiCLKClabEiCLKClabEiCLKClabEiMNRGBZsabGaMEYMhabcEWUExabcEWUExabcEWUExab",
    "cEWUExabcEWUExabcEWUExabcEWUExabcEWUExabcEWUExabcEWUExabcEWUExabcHIEHjabcEWUExabcEWUExabcRBSRfab",
    "caabeHIEHiabcaabeHIEHiabcaabeHIEHiabcaabeHIEHiabcaabeDEXFFqabcVYMWdabGaMEYMhabcEWUExabcEWUExabcE",
    "WUExabcEWUExabcEWUExabcEWUExabcEWUExabcEWUExabcEWUExabcEWUExabcEWUExabcHIEHjabcEWUExabcEWUExabcR",
    "BSRfabcaabeHIEHiabcaabeHIEHiabcaabeHIEHiabcaabeHIEHiabcaabeBWTTXeabqCLKClabqCLKClabqCLKClabqBAVH",
    "BbabcHYLTOQLcabcEWUExabcYJWYpabmNDIJKuabfCLKClabfBXZLZGoabiyabkBISBROaabgjabecabkXXSAMzabeCLKCla",
    "beDFQSJUeabg"]

/-- The class of a character. -/
def markClass (c : Char) : Nat :=
  markClassTable.value c.toNat

/-- The parts of a character. A syllable of the Hangul script has two or three, and the table starts at
    U+00C0. -/
def parts (c : Char) : List Char :=
  let n := c.toNat
  if n < 0xC0 then [c]
  else if 0xAC00 ≤ n && n ≤ 0xD7A3 then
    let s := n - 0xAC00
    let tail := s % 28
    [Char.ofNat (0x1100 + s / 588), Char.ofNat (0x1161 + s % 588 / 28)]
      ++ (if tail == 0 then [] else [Char.ofNat (0x11A7 + tail)])
  else
    match partsTable.find? n with
    | some codes => codes.map fun code => Char.ofNat (shifted n code)
    | none => [c]

/-- What two characters compose to. The first pair of the table is that of `<` and U+0338, and every
    second character in it is U+0300 or above. -/
def compose? (a b : Char) : Option Char :=
  let x := a.toNat
  let y := b.toNat
  if x < 0x3C || y < 0x300 then none
  else if 0x1100 ≤ x && x ≤ 0x1112 && 0x1161 ≤ y && y ≤ 0x1175 then
    some (Char.ofNat (0xAC00 + ((x - 0x1100) * 21 + (y - 0x1161)) * 28))
  else if 0xAC00 ≤ x && x ≤ 0xD7A3 && (x - 0xAC00) % 28 == 0 && 0x11A8 ≤ y && y ≤ 0x11C2 then
    some (Char.ofNat (x + (y - 0x11A7)))
  else
    match composedTable.find? (x * 0x110000 + y) with
    | some (code :: _) => some (Char.ofNat (shifted x code))
    | _ => none

/-- A run of marks in the order of their classes before what is finished, all in reverse; equal classes
    keep their order. -/
def flushMarks (marks done : List Char) : List Char :=
  (marks.reverse.mergeSort fun a b => markClass a ≤ markClass b).reverse ++ done

/-- One more character after a run of marks and what is finished before it. -/
def orderStep (state : List Char × List Char) (c : Char) : List Char × List Char :=
  if markClass c == 0 then ([], c :: flushMarks state.1 state.2) else (c :: state.1, state.2)

/-- Puts each run of marks in the order of their classes. -/
def orderMarks (cs : List Char) : List Char :=
  let (marks, done) := cs.foldl orderStep ([], [])
  (flushMarks marks done).reverse

/-- Composes a starter with the characters after it. `kept` holds, in reverse, the marks that stay
    between the starter and the rest, and `done` what is finished before the starter. -/
def composeAfter (done : List Char) (starter : Char) (kept : List Char) : List Char → List Char
  | [] => (kept ++ starter :: done).reverse
  | c :: rest =>
    let order := markClass c
    let isBlocked := match kept with
      | k :: _ => markClass k == 0 || markClass k ≥ order
      | [] => false
    match if isBlocked then none else compose? starter c with
    | some composed => composeAfter done composed kept rest
    | none =>
      if order == 0 then composeAfter (kept ++ starter :: done) c [] rest
      else composeAfter done starter (c :: kept) rest

/-- Composes what can be composed, marks before the first starter left as they are. -/
def composeAll (done : List Char) : List Char → List Char
  | [] => done.reverse
  | c :: rest =>
    if markClass c == 0 then composeAfter done c [] rest else composeAll (c :: done) rest

/-- Normal form C: characters are taken apart, marks are put in the order of their classes, and what can
    be composed is composed again. -/
def normalize (cs : List Char) : List Char :=
  composeAll [] (orderMarks (cs.flatMap parts))

end VulnProbe.Text

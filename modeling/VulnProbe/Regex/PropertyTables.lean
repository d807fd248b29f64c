namespace VulnProbe.Regex

/-- The general categories with their names, but for surrogates and unassigned code points. -/
def categoryNames : List (List String) :=
  [["cc", "control", "cntrl"],
    ["cf", "format"],
    ["co", "privateuse"],
    ["ll", "lowercaseletter"],
    ["lm", "modifierletter"],
    ["lo", "otherletter"],
    ["lt", "titlecaseletter"],
    ["lu", "uppercaseletter"],
    ["mc", "spacingmark"],
    ["me", "enclosingmark"],
    ["mn", "nonspacingmark"],
    ["nd", "decimalnumber", "digit"],
    ["nl", "letternumber"],
    ["no", "othernumber"],
    ["pc", "connectorpunctuation"],
    ["pd", "dashpunctuation"],
    ["pe", "closepunctuation"],
    ["pf", "finalpunctuation"],
    ["pi", "initialpunctuation"],
    ["po", "otherpunctuation"],
    ["ps", "openpunctuation"],
    ["sc", "currencysymbol"],
    ["sk", "modifiersymbol"],
    ["sm", "mathsymbol"],
    ["so", "othersymbol"],
    ["zl", "lineseparator"],
    ["zp", "paragraphseparator"],
    ["zs", "spaceseparator"]]

/-- The categories of the code points, each by its place in `categoryNames`. -/
def categoryTable : List String :=
  ["aBfbaaabBbacbtaabvacbtaabuaabqaabtaabxaabtaabpabbtajblabbtacbxabbtazbhaabuaabtaabqaabwaaboaabw",
    "azbdaabuaabxaabqaabxaBgbaaabBbaabtadbvaabyaabtaabwaabyaabfaabsaabxaabbaabyaabwaabyaabxabbnaabw",
    "aabdabbtaabwaabnaabfaabracbnaabtawbhaabxagbhaxbdaabxahbdaabhaabdaabhaabdaabhaabdaabhaabdaabhaa",
    "bdaabhaabdaabhaabdaabhaabdaabhaabdaabhaabdaabhaabdaabhaabdaabhaabdaabhaabdaabhaabdaabhaabdaabh",
    "aabdaabhaabdaabhaabdaabhaabdaabhaabdaabhaabdaabhaabdaabhaabdaabhaabdaabhaabdaabhaabdaabhabbdaa",
    "bhaabdaabhaabdaabhaabdaabhaabdaabhaabdaabhaabdaabhaabdaabhabbdaabhaabdaabhaabdaabhaabdaabhaabd",
    "aabhaabdaabhaabdaabhaabdaabhaabdaabhaabdaabhaabdaabhaabdaabhaabdaabhaabdaabhaabdaabhaabdaabhaa",
    "bdaabhaabdaabhaabdaabhaabdaabhaabdaabhaabdaabhaabdaabhaabdabbhaabdaabhaabdaabhacbdabbhaabdaabh",
    "aabdabbhaabdacbhabbdadbhaabdabbhaabdacbhacbdabbhaabdabbhaabdaabhaabdaabhaabdabbhaabdaabhabbdaa",
    "bhaabdabbhaabdacbhaabdaabhaabdabbhabbdaabfaabhacbdadbfaabhaabgaabdaabhaabgaabdaabhaabgaabdaabh",
    "aabdaabhaabdaabhaabdaabhaabdaabhaabdaabhaabdaabhaabdaabhabbdaabhaabdaabhaabdaabhaabdaabhaabdaa",
    "bhaabdaabhaabdaabhaabdaabhaabdaabhabbdaabhaabgaabdaabhaabdacbhaabdaabhaabdaabhaabdaabhaabdaabh",
    "aabdaabhaabdaabhaabdaabhaabdaabhaabdaabhaabdaabhaabdaabhaabdaabhaabdaabhaabdaabhaabdaabhaabdaa",
    "bhaabdaabhaabdaabhaabdaabhaabdaabhaabdaabhaabdaabhaabdaabhaabdaabhaabdaabhaabdaabhaabdaabhaabd",
    "aabhaabdaabhagbdabbhaabdabbhabbdaabhaabdadbhaabdaabhaabdaabhaabdaabhaabdaabhaCqbdabbfazbdarbea",
    "dbwalbeanbwaebeagbwaabeaabwaabeaqbwaEhbkaabhaabdaabhaabdaabeaabwaabhaabdcabeacbdaabtaabhebbwaa",
    "bhaabtacbhbabhbbbhaabdaqbhbibhaBibdaabhabbdacbhacbdaabhaabdaabhaabdaabhaabdaabhaabdaabhaabdaab",
    "haabdaabhaabdaabhaabdaabhaabdaabhaabdaabhaabdaabhaebdaabhaabdaabxaabhaabdabbhabbdaBybhaBvbdaab",
    "haabdaabhaabdaabhaabdaabhaabdaabhaabdaabhaabdaabhaabdaabhaabdaabhaabdaabhaabdaabhaabdaabhaabda",
    "abhaabdaabhaabdaabhaabdaabhaabdaabhaabdaabyaebkabbjaabhaabdaabhaabdaabhaabdaabhaabdaabhaabdaab",
    "haabdaabhaabdaabhaabdaabhaabdaabhaabdaabhaabdaabhaabdaabhaabdaabhaabdaabhaabdaabhaabdaabhaabda",
    "abhaabdaabhaabdaabhaabdaabhaabdaabhaabdaabhaabdaabhaabdaabhaabdaabhaabdaabhaabdabbhaabdaabhaab",
    "daabhaabdaabhaabdaabhaabdaabhaabdaabhabbdaabhaabdaabhaabdaabhaabdaabhaabdaabhaabdaabhaabdaabha",
    "abdaabhaabdaabhaabdaabhaabdaabhaabdaabhaabdaabhaabdaabhaabdaabhaabdaabhaabdaabhaabdaabhaabdaab",
    "haabdaabhaabdaabhaabdaabhaabdaabhaabdaabhaabdaabhaabdaabhaabdaabhaabdaabhaabdaabhaabdaabhaabda",
    "abhaabdaabhaabdaabhaabdaabhaabdaabhaabdaabhaabdaabhaabdaabhaabdaabhaabdaabhaabdaabhaabdaabhaab",
    "daabhaabdaabhaabdaabhaabdaabhaabdaabhaabdaabhaabdbBlbhcabeafbtaBobdaabtaabpcbbyaabvbBsbkaabpaa",
    "bkaabtabbkaabtabbkaabtaabkiBabfedbfabbtlfbbacbxabbtaabvabbtabbyakbkaabtaabbacbtaBfbfaabeajbfau",
    "bkajbladbtabbfaabkaDubfaabtaabfagbkaabbaabyafbkabbeabbkaabyadbkabbfajblacbfabbyaabfanbtbabbaab",
    "faabkaBdbfaBabkcDkbfakbkaabfojblaBgbfaibkabbeaabyacbtaabecabkabbvavbfadbkaabeaibkaabeacbkaabea",
    "ebkcobtbybfacbkcabtbkbffxbfaabwagbfabbbfibkaBobfaabeaxbkaabbaBfbkaabiaCbbfaabkaabiaabkaabfacbi",
    "ahbkadbiaabkabbiaabfagbkajbfabbkabbtajblaabtaabeaobfaabkabbibhbfcbbfcvbfbgbfbabfddbfcabkaabfac",
    "biadbkcbbicbbiaabkaabfiabiebbfbcbfabbkcjblabbfabbvafbnaabyaabvaabfaabtaabkcbbkaabibfbfebbfcvbf",
    "bgbfbbbfbbbfbbbfcabkbcbiabbkebbkccbkdabkhdbfbabfhjblabbkacbfaabkaabtkbbkaabibibfbcbfbvbfbgbfbb",
    "bfbebfcabkaabfacbiaebkbbbkaabibbbiaabkcabfpbbfabbkcjblaabtaabvhabfafbkbabkabbibhbfcbbfcvbfbgbf",
    "bbbfbebfcabkaabfaabiaabkaabiadbkcbbicbbiaabkhbbkaabiebbfbcbfabbkcjblaabyaabfafbnkabkaabfbfbfdc",
    "bfbdbfdbbfbabfbbbfdbbfdcbfdlbfebbiaabkabbidcbibcbiaabkcabfgabiojblacbnafbyaabvaabyfabkacbiaabk",
    "ahbfbcbfbwbfbpbfcabkaabfacbkadbibcbkbdbkhbbkbcbfbbbfcbbfabbkcjblhabtagbnaabyaabfaabkabbiaabtah",
    "bfbcbfbwbfbjbfbebfcabkaabfaabiaabkaebibabkabbibbbiabbkhbbifcbfbbbfabbkcjblbbbfaabimbbkabbiaibf",
    "bcbfbBobfabbkaabfacbiadbkbcbibcbiaabkaabfaabyecbfaabiagbnacbfabbkcjblaibnaabyafbfbabkabbibrbfd",
    "xbfbibfbabfcgbfdabkecbiacbkbabkbhbigjblcbbiaabtmBvbfaabkabbfagbkeabvafbfaabeahbkaabtajblabbtBl",
    "bbfbabfbebfbxbfbabfbjbfaabkabbfaibkaabfcebfbabebgbkbjblcdbfBgabfacbyaobtaabyaabtacbyabbkafbyaj",
    "blajbnaabyaabkaabyaabkaabyaabkaabuaabqaabuaabqabbiahbfbBjbfenbkaabiaebkaabtabbkaebfakbkbBjbkbh",
    "byaabkafbybbbyaebtadbyabbtBlBqbfabbiadbkaabiafbkaabiabbkabbiabbkaabfajblafbtafbfabbiabbkadbfac",
    "bkaabfacbiabbfagbiacbfadbkambfaabkabbiabbkafbiaabkaabfaabiajblacbiaabkabbyaBlbhbabhfabhcBqbdaa",
    "btaabeacbdaMqbfbdbfcgbfbabfbdbfcBobfbdbfcBgbfbdbfcgbfbabfbdbfcobfbCebfbdbfcCobfccbkaibtatbndpb",
    "fajbygDhbhcfbdcabpaXvbfaabyaabtaqbfaabBbazbfaabuaabqdCwbfacbtacbmahbfhrbfacbkaabijsbfabbkaabia",
    "bbtjrbfabbkmmbfbcbfbbbkmBzbfabbkaabiagbkahbiaabkabbiakbkacbtaabeacbtaabvaabfaabkcjblgjbngfbtaa",
    "bpadbtacbkaabbaabkajblgBibfaabeaCabfhebfabbkaBhbfaabkaabffCrbfkBebfbcbkadbiabbkacbiebbiaabkafb",
    "iacbkeabydbbtajblaBdbfcebflBrbfezbfgjblaabndBhbyawbfabbkabbiaabkcbbtaCabfaabiaabkaabiagbkbabka",
    "abiaabkabbiahbkafbiajbkcabkajblgjblggbtaabeafbtcnbkaabjaBebkclbkudbkaabiaBubfaabkaabiaebkaabia",
    "abkaebiaabkabbiahbfbbbtajblagbtajbyaibkaibyacbtabbkaabiaBdbfaabiadbkabbiabbkaabiacbkabbfajblaB",
    "rbfaabkaabiabbkacbiaabkaabiacbkabbiidbtaBjbfahbiahbkabbiabbkdebtajbldcbfajblaBdbfafbeabbtaibda",
    "abhaabdfBqbhccbhahbticbkaabtambkaabiagbkadbfaabkafbfaabkabbfaabiabbkaabffBrbdaCkbeambdaabeaBhb",
    "daBkbeaClbkaabhaabdaabhaabdaabhaabdaabhaabdaabhaabdaabhaabdaabhaabdaabhaabdaabhaabdaabhaabdaab",
    "haabdaabhaabdaabhaabdaabhaabdaabhaabdaabhaabdaabhaabdaabhaabdaabhaabdaabhaabdaabhaabdaabhaabda",
    "abhaabdaabhaabdaabhaabdaabhaabdaabhaabdaabhaabdaabhaabdaabhaabdaabhaabdaabhaabdaabhaabdaabhaab",
    "daabhaabdaabhaabdaabhaabdaabhaabdaabhaabdaabhaabdaabhaabdaabhaabdaabhaabdaabhaabdaabhaabdaabha",
    "abdaabhaabdaabhaabdaabhaabdaabhaabdaabhaabdaabhaabdaabhaabdaabhaabdaabhaabdaabhaabdaabhaabdaab",
    "haabdaabhaabdaabhaabdaabhaabdaabhaabdaabhaabdaabhaabdaabhaabdaabhaabdaabhaabdaabhaabdaabhaabda",
    "abhaabdaabhaabdaabhaabdaabhaabdaabhaabdaabhaibdaabhaabdaabhaabdaabhaabdaabhaabdaabhaabdaabhaab",
    "daabhaabdaabhaabdaabhaabdaabhaabdaabhaabdaabhaabdaabhaabdaabhaabdaabhaabdaabhaabdaabhaabdaabha",
    "abdaabhaabdaabhaabdaabhaabdaabhaabdaabhaabdaabhaabdaabhaabdaabhaabdaabhaabdaabhaabdaabhaabdaab",
    "haabdaabhaabdaabhaabdaabhaabdaabhaabdaabhaabdaabhaabdaabhaabdaabhaabdaabhaabdaabhaabdaabhaabda",
    "abhaabdaabhaabdaabhaabdaabhaabdaabhaabdaabhaabdaabhaabdaabhaibdahbhafbdcfbhchbdahbhahbdahbhafb",
    "dcfbhchbdbabhbabhbabhbabhahbdahbhanbdchbdahbgahbdahbgahbdahbgaebdbbbdadbhaabgaabwaabdacbwacbdb",
    "bbdadbhaabgacbwadbdcbbdadbhbcbwahbdaebhacbwccbdbbbdadbhaabgabbwbkbBbaebbafbpabbtaabsaabraabuab",
    "bsaabraabuaabsahbtaabzaabBaaebbaabBbaibtaabsaabradbtabboacbtaabxaabuaabqakbtaabxaabtaaboajbtaa",
    "bBbaebbbjbbaabnaabecfbnacbxaabuaabqaabeajbnacbxaabuaabqbmbedBhbvombkadbjaabkacbjalbkpbbyaabhad",
    "byaabhabbyaabdacbhabbdacbhaabdaabyaabhabbyaabxaebhafbyaabhaabyaabhaabyaabhaabyadbhaabyaabdadbh",
    "aabdadbfaabdabbyabbdabbhaebxaabhadbdaabyaabxabbyaabdaabyapbnaBibmaabhaabdadbmaabnabbyeebxaebya",
    "bbxadbyaabxabbyaabxabbyaabxagbyaabxaBebyabbxabbyaabxaabyaabxaBebyaKhbxahbyaabuaabqaabuaabqatby",
    "abbxagbyaabuaabqaDcbyaabxaBdbyaybxaBnbyafbxaCtbywkbyvChbnaCzbyavbnaHabyaabxaibyaabxaCbbyahbxaE",
    "gbyaabxaJnbyaabuaabqaabuaabqaabuaabqaabuaabqaabuaabqaabuaabqaabuaabqaBdbnaBrbyaebxaabuaabqaBeb",
    "xaabuaabqaabuaabqaabuaabqaabuaabqaabuaabqapbxaJvbyaFabxaabuaabqaabuaabqaabuaabqaabuaabqaabuaab",
    "qaabuaabqaabuaabqaabuaabqaabuaabqaabuaabqaabuaabqaCkbxaabuaabqaabuaabqaBfbxaabuaabqaJxbxaBvbya",
    "ubxabbyafbxaBmbycFhbyaBvbhaBvbdaabhaabdacbhabbdaabhaabdaabhaabdaabhaabdadbhaabdaabhabbdaabhafb",
    "dabbeacbhaabdaabhaabdaabhaabdaabhaabdaabhaabdaabhaabdaabhaabdaabhaabdaabhaabdaabhaabdaabhaabda",
    "abhaabdaabhaabdaabhaabdaabhaabdaabhaabdaabhaabdaabhaabdaabhaabdaabhaabdaabhaabdaabhaabdaabhaab",
    "daabhaabdaabhaabdaabhaabdaabhaabdaabhaabdaabhaabdaabhaabdaabhaabdaabhaabdaabhaabdaabhaabdaabha",
    "abdaabhaabdaabhaabdaabhaabdaabhaabdaabhaabdaabhaabdaabhaabdaabhaabdaabhaabdaabhaabdaabhaabdaab",
    "haabdaabhaabdaabhaabdaabhabbdafbyaabhaabdaabhaabdacbkaabhaabdfdbtaabnabbtaBlbdbabdfabdcCdbfhab",
    "eaabtoabkawbfjgbfbgbfbgbfbgbfbgbfbgbfbgbfbgbfbBfbkabbtaabsaabraabsaabracbtaabsaabraabtaabsaabr",
    "aibtaabpabbtaabpaabtaabsaabrabbtaabsaabraabuaabqaabuaabqaabuaabqaabuaabqaebtaabeajbtabbpadbtaa",
    "bpaabtaabuambtabbyacbtaabuaabqaabuaabqaabuaabqaabuaabqaabpBizbybDkbymIfbyBapbyaabBbacbtaabyaab",
    "eaabfaabmaabuaabqaabuaabqaabuaabqaabuaabqaabuaabqabbyaabuaabqaabuaabqaabuaabqaabuaabqaabpaabua",
    "bbqaabyaibmadbkabbiaabpaebeabbyacbmaabeaabfaabtabbybDhbfcbbkabbwabbeaabfaabpaDlbfaabtacbeaabff",
    "BqbfbDpbfbbbyadbnajbyaBfbfaBlbyjabyapbfaBebybjbnaBdbyahbnaabyaobnaBfbyajbnaBmbyaobnaMhbyaJTnbf",
    "aClbyaBFCebfaabeaBRybfdCcbyjBnbfafbeabbtaKhbfaabeacbtapbfajblabbfuabhaabdaabhaabdaabhaabdaabha",
    "abdaabhaabdaabhaabdaabhaabdaabhaabdaabhaabdaabhaabdaabhaabdaabhaabdaabhaabdaabhaabdaabhaabdaab",
    "haabdaabhaabdaabhaabdaabhaabdaabhaabdaabhaabdaabhaabdaabhaabdaabfaabkacbjaabtajbkaabtaabeaabha",
    "abdaabhaabdaabhaabdaabhaabdaabhaabdaabhaabdaabhaabdaabhaabdaabhaabdaabhaabdaabhaabdaabhaabdaab",
    "haabdaabhaabdabbeabbkaCrbfajbmabbkafbtiwbwaibeabbwaabhaabdaabhaabdaabhaabdaabhaabdaabhaabdaabh",
    "aabdaabhacbdaabhaabdaabhaabdaabhaabdaabhaabdaabhaabdaabhaabdaabhaabdaabhaabdaabhaabdaabhaabdaa",
    "bhaabdaabhaabdaabhaabdaabhaabdaabhaabdaabhaabdaabhaabdaabhaabdaabhaabdaabhaabdaabhaabdaabhaabd",
    "aabhaabdaabhaabdaabhaabdaabhaabdaabhaabdaabhaabdaabhaabdaabhaabdaabhaabdaabeahbdaabhaabdaabhaa",
    "bdabbhaabdaabhaabdaabhaabdaabhaabdaabhaabdaabeabbwaabhaabdaabhaabdaabfaabhaabdaabhacbdaabhaabd",
    "aabhaabdaabhaabdaabhaabdaabhaabdaabhaabdaabhaabdaabhaabdaabhaabdaabhaabdaebhaabdaebhaabdaabhaa",
    "bdaabhaabdaabhaabdaabhaabdaabhaabdaabhaabdaabhaabdadbhaabdaabhaabdabbhaabdaabhaabdaabhaabdaabh",
    "aabdaabhaabdaabhaabdaabhaabdaabhaabdaabhudbeaabhaabdaabfabbeaabdagbfaabkacbfaabkadbfaabkawbfab",
    "biabbkaabiadbyaabkdfbnabbyaabvaabygBzbfadbtibbiaBxbfapbiabbkibbtajblgrbkafbfacbtaabfaabtabbfaa",
    "bkajblaBbbfahbkabbtawbfakbkabbilabtaBcbfdcbkaabiaBubfaabkabbiadbkabbiabbkacbiambtbabeajblebbta",
    "ebfaabkaabeaibfajblaebfbBobfafbkabbiabbkabbiabbkjcbfaabkahbfaabkaabicjblcdbtapbfaabeafbfacbyaa",
    "bfaabiaabkaabiaBxbfaabkaabfacbkabbfabbkaebfabbkaabfaabkaabfybbfaabeabbtakbfaabiabbkabbiabbtaab",
    "fabbeaabiaabkkfbfcfbfcfbfjgbfbgbfbBqbdaabwadbeaibdaabeabbweDbbdaBibfabbiaabkabbiaabkabbiaabtaa",
    "biaabkcjblgQNrbfmwbfeBwbfDAyJMdbcaObbfcEbbfBmgbdmebdfabfaabkajbfaabxambfbebfbabfbbbfbbbfbEdbfa",
    "qbwapbyaNybfaabqaabuapbyaClbfabbyaCbbfahbyBglbfaabvacbyapbkagbtaabuaabqaabtgpbkaabtabbpabboaab",
    "uaabqaabuaabqaabuaabqaabuaabqaabuaabqaabuaabqaabuaabqaabuaabqabbtaabuaabqadbtacboacbtbdbtaabpa",
    "abuaabqaabuaabqaabuaabqacbtaabxaabpacbxbabtaabvabbteebfbFebfcabbbcbtaabvacbtaabuaabqaabtaabxaa",
    "btaabpabbtajblabbtacbxabbtazbhaabuaabtaabqaabwaaboaabwazbdaabuaabxaabqaabxaabuaabqaabtaabuaabq",
    "abbtajbfaabeaBsbfabbeaBebfdfbfcfbfcfbfccbfdbbvaabxaabwaabyabbvbabyadbxabbykcbbabbyclbfbzbfbsbf",
    "bbbfbobfcnbfBiEsbffcbteBsbndibyaCabmadbnaqbyabbnacbybmbydabyBvBsbyaabkFaBcbfdBwbfpabkaBabneBfb",
    "fadbnjtbfaabmahbfaabmfBlbfaebkfBdbfbabtaBjbfehbfaabtaebmBqBnbhaBnbdaCzbfcjblgBjbheBjbdeBnbfiBz",
    "bflabtakbhbobhbgbhbbbhbkbdbobdbgbdbbbddBzbfmLybfjvbfkhbfyfbebBpbebibeCrfbfcabfbBrbfbbbfdabfcwb",
    "fbabtahbnawbfabbyagbnaBebfiibnBwsbfbbbffebnavbfafbndabtazbffabtazbfBmCdbfebbnabbfapbncBtbnaabf",
    "acbkbbbkfdbkadbfbcbfbBcbfccbkeabkaibnhibthBcbfabbnaabtaBcbfacbnBghbfaabyaBbbfabbkeebnagbtjCbbf",
    "dgbtavbfchbnasbffhbnarbfhdbtmgbnDcCubfCdBybhnBybdhfbnaBjbfadbkijblgjbladbfaabeaabfavbhdebkaabp",
    "aabeavbdibbxIaBebnbBpbfbbbkaabpcbbfqcbfaabeabbfiabtahbyBhfbkaBcbfajbnaabfivbfakbkadbnaebtwrbfa",
    "dbkadbtBmubfagbnuwbfjabiaabkaabiaCabfaobkagbtetbnajblaabkabbfabbkaabfjcbkaabiaBsbfacbiadbkabbi",
    "abbkabbtaabbadbtaabkkabbcybfhjblgcbkaBjbfaebkaabiahbkbjbladbtaabfabbiaabfiBibfaabkabbtaabfjbbk",
    "aabiaBvbfacbiaibkabbiadbfadbtadbkaabtaabiaabkajblaabfaabtaabfacbtbtbnlrbfbybfacbiacbkabbiaabka",
    "abiabbkafbtaabkabbfaabkCkgbfbabfbdbfbobfbjbfaabtgBubfaabkacbiahbkfjblgbbkabbibhbfcbbfcvbfbgbfb",
    "bbfbebfbbbkaabfabbiaabkadbicbbiccbicabfgabifebfabbicgbkdebkljbfbabfcabfbBlbfbabfacbiafbkbabica",
    "bibdbibbbiaabkaabiaabkaabfaabkaabfabbtbbbtibbkBdCabfacbiahbkabbiacbkaabiaabkadbfaebtajblabbtba",
    "btaabkacbfBeBvbfacbiafbkaabiaabkadbiabbkaabiabbkabbfaabtaabfijblGkBubfacbiadbkcdbiabbkaabiabbk",
    "awbtadbfabbkBiBvbfacbiahbkabbiaabkaabiabbkacbtaabfljblgmbttBqbfaabkaabiaabkabbiafbkaabiaabkaab",
    "faabtgjblgtblBcBabfcabkaabiaabkabbiadbkaabiaebkejblabbnacbtaabyagbfHdBrbfacbiaibkaabiabbkaabtD",
    "wBfbhaBfbdajblaibnmhbfcabfchbfbbbfbxbfafbibbbicbbkaabiaabkaabfaabiaabfaabiaabkacbtjjblCshbfcBm",
    "bfacbiadbkcbbkadbiaabkaabfaabtaabfaabiBbabfajbkaBnbfafbkaabiaabfadbkahbtaabkiabfafbkabbiacbkaB",
    "tbfambkaabiabbkacbtaabfaebtnCubfhjbtDiabkaabiacbkaabiaabkaabiDkBgbfaabtojblgibfbBkbfaabiagbkbf",
    "bkaabiaabkaabfaebtkjblasbndbbtaBdbfcvbkbabiagbkaabiabbkaabiabbkCvgbfbbbfbBlbfafbkdabkbbbkbgbka",
    "abfaabkijblgfbfbbbfbBfbfaebibbbkbbbiaabkaabiaabkaabfhjblgBobfaabeabbfejblJmsbfabbkabbiabbthbbk",
    "aabfaabiambfbBhbfabbiaebkdbbiaabkaabiaabkambtajblaabkDhabfpubnahbyadbvaqbynabtaBJlbfDyEgbmbebt",
    "lHnbfDXkDsbfabbtnBPfbfapbbaabkafbfaobkkFXqbffWkbfKDdBdbfalbkacbiacbkajblCOsVwbfhBebfbjblebbtaD",
    "abfbjblgBdbfcebkaabtkBvbfagbkaebtadbyadbeaabtaabykjblbgbnbubffsbfQqcbeaBnbfabbeacbtajblHqBfbha",
    "BfbdawbnadbtfybhcybdBsCwbfeabkaabfaCcbihdbkambeCmbbeaabtaabeaabklbbiabbeacbmjKXxbfBpBfbfDtEkbf",
    "MWrdbebgbebbbebLebfpabfBdcbfcabfodbfiPfbfDKuEcbffmbfdibfhjbfcabyabbkaabtadbbFVgJfbyajblacbydQt",
    "bygwbyppbyaabxpBtbkcwbkjElbyCiJlbykBmbycChbyabbiacbkacbyafbiahbbahbkabbyagbkaBdbyadbkaCibyvCnb",
    "yacbkaabyEstbnmtbnmDibyjybnFfzbhazbdazbhagbdbrbdazbhazbdaabhbbbhcabhcbbhcdbhbhbhadbdbabdbgbdbk",
    "bdazbhazbdabbhbdbhchbhbgbhbzbdabbhbdbhbebhbabhdgbhbzbdazbhazbdazbhazbdazbhazbdazbhazbdazbhazbd",
    "azbhaBbbdcybhaabxaybdaabxafbdaybhaabxaybdaabxafbdaybhaabxaybdaabxafbdaybhaabxaybdaabxafbdaybha",
    "abxaybdaabxafbdaabhaabdcBxblaTrbyaCcbkadbyaBxbkahbyaabkanbyaabkabbyaebtpebkbobkBQmjbdaabfatbdg",
    "fbdIfgbkbqbkcgbkbbbkbebkfCjbeBhabkEiBsbfdgbkagbecjbleabfaabyMiBdbfaabkrBrbfadbkajblfabvRwBabfa",
    "abeadbkajblIgBdbfabbkaabfajbleabtHkBebfbcbfaabkabbfaabkagbfabbkaebfaabkiabfaabeIqgbfbdbfbbbfbo",
    "bfbHobfcibnagbkBpBhbhaBhbdagbkaabeejblebbtBEfCgbnaabyacbnaabvadbnCyBsbnaabyaobnHmdbfbBabfbbbfb",
    "abfcabfbjbfbdbfbabfbabfgabfeabfbabfbabfbcbfbbbfbabfcabfbabfbabfbabfbabfbbbfbabfcdbfbgbfbdbfbdb",
    "fbabfbjbfbqbffcbfbebfbqbfCabbxKkBrbyeDvbymobycobybobybBkbykmbnaGebyCeBcbynBrbyeibyhbbyofbyFyJq",
    "byaebwaBCabydqbydmbydIjbyglbyeabyplbyeCdbyijbygBnbyiBdbyclbyebbyoibxBnNfbyinbycmbydkbydCebybab",
    "yepbyclbyejbyhFqbybDnbyajblaabyBNpCLFbbfBgGMnbfcIObbfcLBkbfpXxbfDQwUvbfCFyHHybffMOnbfBOGOdabbB",
    "eDrbbEyJfbkDSFoDSYnbccDSYnbc"]

/-- The scripts with their names. -/
def scriptNames : List (List String) :=
  [["adlm", "adlam"], ["aghb", "caucasianalbanian"], ["ahom"], ["arab", "arabic"],
    ["armi", "imperialaramaic"], ["armn", "armenian"], ["avst", "avestan"], ["bali", "balinese"],
    ["bamu", "bamum"], ["bass", "bassavah"], ["batk", "batak"], ["beng", "bengali"],
    ["bhks", "bhaiksuki"], ["bopo", "bopomofo"], ["brah", "brahmi"], ["brai", "braille"],
    ["bugi", "buginese"], ["buhd", "buhid"], ["cakm", "chakma"], ["cans", "canadianaboriginal"],
    ["cari", "carian"], ["cham"], ["cher", "cherokee"], ["chrs", "chorasmian"],
    ["copt", "coptic", "qaac"], ["cpmn", "cyprominoan"], ["cprt", "cypriot"],
    ["cyrl", "cyrillic"], ["deva", "devanagari"], ["diak", "divesakuru"], ["dogr", "dogra"],
    ["dsrt", "deseret"], ["dupl", "duployan"], ["egyp", "egyptianhieroglyphs"],
    ["elba", "elbasan"], ["elym", "elymaic"], ["ethi", "ethiopic"], ["gara", "garay"],
    ["geor", "georgian"], ["glag", "glagolitic"], ["gong", "gunjalagondi"],
    ["gonm", "masaramgondi"], ["goth", "gothic"], ["gran", "grantha"], ["grek", "greek"],
    ["gujr", "gujarati"], ["gukh", "gurungkhema"], ["guru", "gurmukhi"], ["hang", "hangul"],
    ["hani", "han"], ["hano", "hanunoo"], ["hatr", "hatran"], ["hebr", "hebrew"],
    ["hira", "hiragana"], ["hluw", "anatolianhieroglyphs"], ["hmng", "pahawhhmong"],
    ["hmnp", "nyiakengpuachuehmong"], ["hung", "oldhungarian"], ["ital", "olditalic"],
    ["java", "javanese"], ["kali", "kayahli"], ["kana", "katakana"], ["kawi"],
    ["khar", "kharoshthi"], ["khmr", "khmer"], ["khoj", "khojki"], ["kits", "khitansmallscript"],
    ["knda", "kannada"], ["krai", "kiratrai"], ["kthi", "kaithi"], ["lana", "taitham"],
    ["laoo", "lao"], ["latn", "latin"], ["lepc", "lepcha"], ["limb", "limbu"],
    ["lina", "lineara"], ["linb", "linearb"], ["lisu"], ["lyci", "lycian"], ["lydi", "lydian"],
    ["mahj", "mahajani"], ["maka", "makasar"], ["mand", "mandaic"], ["mani", "manichaean"],
    ["marc", "marchen"], ["medf", "medefaidrin"], ["mend", "mendekikakui"],
    ["merc", "meroiticcursive"], ["mero", "meroitichieroglyphs"], ["mlym", "malayalam"], ["modi"],
    ["mong", "mongolian"], ["mroo", "mro"], ["mtei", "meeteimayek"], ["mult", "multani"],
    ["mymr", "myanmar"], ["nagm", "nagmundari"], ["nand", "nandinagari"],
    ["narb", "oldnortharabian"], ["nbat", "nabataean"], ["newa"], ["nkoo", "nko"],
    ["nshu", "nushu"], ["ogam", "ogham"], ["olck", "olchiki"], ["onao", "olonal"],
    ["orkh", "oldturkic"], ["orya", "oriya"], ["osge", "osage"], ["osma", "osmanya"],
    ["ougr", "olduyghur"], ["palm", "palmyrene"], ["pauc", "paucinhau"], ["perm", "oldpermic"],
    ["phag", "phagspa"], ["phli", "inscriptionalpahlavi"], ["phlp", "psalterpahlavi"],
    ["phnx", "phoenician"], ["plrd", "miao"], ["prti", "inscriptionalparthian"],
    ["rjng", "rejang"], ["rohg", "hanifirohingya"], ["runr", "runic"], ["samr", "samaritan"],
    ["sarb", "oldsoutharabian"], ["saur", "saurashtra"], ["sgnw", "signwriting"],
    ["shaw", "shavian"], ["shrd", "sharada"], ["sidd", "siddham"], ["sind", "khudawadi"],
    ["sinh", "sinhala"], ["sogd", "sogdian"], ["sogo", "oldsogdian"], ["sora", "sorasompeng"],
    ["soyo", "soyombo"], ["sund", "sundanese"], ["sunu", "sunuwar"], ["sylo", "sylotinagri"],
    ["syrc", "syriac"], ["tagb", "tagbanwa"], ["takr", "takri"], ["tale", "taile"],
    ["talu", "newtailue"], ["taml", "tamil"], ["tang", "tangut"], ["tavt", "taiviet"],
    ["telu", "telugu"], ["tfng", "tifinagh"], ["tglg", "tagalog"], ["thaa", "thaana"], ["thai"],
    ["tibt", "tibetan"], ["tirh", "tirhuta"], ["tnsa", "tangsa"], ["todr", "todhri"], ["toto"],
    ["tutg", "tulutigalari"], ["ugar", "ugaritic"], ["vaii", "vai"], ["vith", "vithkuqi"],
    ["wara", "warangciti"], ["wcho", "wancho"], ["xpeo", "oldpersian"], ["xsux", "cuneiform"],
    ["yezi", "yezidi"], ["yiii", "yi"], ["zanb", "zanabazarsquare"],
    ["zinh", "inherited", "qaai"], ["zyyy", "common"]]

/-- The scripts of the code points, each by its place in `scriptNames`. -/
def scriptTable : List String :=
  ["aCmbGnazbCuafbGnazbCuaBubGnaabCuaobGnaabCuaebGnawbCuaabGnaBebCuaabGnaRgbCuaBmbGnaebCuaebGnabbn",
    "atbGnaEhbGmadbBsaabGnacbBscdbBsaabGnaabBseabBsaabGnaabBsaabGnacbBsbabBsbtbBsbCkbBsanbyapbBsaFc",
    "bBbabbGmaGmbBbbBlbfcBxbfccbfbCcbCaiBabCaefbCalebdaabGnafbdaabGnanbdaabGnacbdaabGnaBfbdaabGnajb",
    "dakbGmazbdaabGmaEdbdaabGnaBhbdanbFjbChbFjccbFjaBvbdaBxbFuoCgbDxccbDxaBtbEtcobEtbBbbDecabDebkbF",
    "jfBhbdfCwbdaabGnaBcbdaDcbBcadbGmaobBcabbGnazbBcadblbhblcbblcvblbgblbablddblciblcbblcdbliablebb",
    "lbeblcyblccbBvbfbBvebbBvcvbBvbgbBvbbbBvbbbBvbbbBvcabBvbebBvebbBvccbBvdabBvhdbBvbabBvhqbBvkcbBt",
    "bibBtbcbBtbvbBtbgbBtbbbBtbebBtcjbBtbcbBtbcbBtcabBtpdbBtclbBthgbBtbcbEdbhbEdcbbEdcvbEdbgbEdbbbE",
    "dbebEdcibEdcbbEdccbEdhcbEdebbEdbebEdcrbEdkbbFobfbFodcbFobdbFodbbFobabFobbbFodbbFodcbFodlbFoeeb",
    "FodcbFobdbFocabFogabFooubFofmbFrbcbFrbwbFrbpbFrcibFrbcbFrbdbFrhbbFrbcbFrbbbFrcdbFrcjbFrhibFram",
    "bCpbcbCpbwbCpbjbCpbebCpcibCpbcbCpbdbCphbbCpfcbCpbdbCpcjbCpbcbCpmmbDlbcbDlbBybDlbcbDlbfbDlepbDl",
    "czbDlbcbFbbrbFbdxbFbbibFbbabFbcgbFbdabFbefbFbbabFbbhbFbgjbFbccbFbmCfbFveabGnaBbbFvBlbbCtbabCtb",
    "ebCtbxbCtbabCtbwbCtcebCtbabCtbgbCtbjbCtcdbCtBgCtbFwbBjbFweBmbFwbBjbFwbobFwbgbFwadbGnabbFwBlGdb",
    "DraBlbBmbabBmfabBmcBqbBmaabGnadbBmaJvbBwaCubBkbdbBkcgbBkbabBkbdbBkcBobBkbdbBkcBgbBkbdbBkcgbBkb",
    "abBkbdbBkcobBkbCebBkbdbBkcCobBkcBfbBkdzbBkgDhbwcfbwcYpbtaBcbDzdCwbEsacbGnakbEshvbFtjabFtaubBya",
    "bbGnjtbrmmbFkbcbFkbbbFkmDpbCmcjbCmgjbCmgbbDnabbGnaabDnaabGnatbDngDkbDnhBqbDnfCrbtkBebCwblbCwel",
    "bCweabCwdlbCwaBdbFmcebFmlBrbFnezbFngkbFndbbFnaBfbCmaBbbqcbbqaCkbCsbBcbCsckbCsgjbCsgnbCscBtbGmc",
    "lbGmuCybhbBxbhaClbFgaBzbkidbkaCdbCvdobCvdcbCvaBvbEaakbBbfBqbBmccbBmahbFgicbGmaabGnambGmaabGnag",
    "bGmadbGnaabGmafbGnaabGmacbGnabbGmaabGnfBlbCuaebBsaabBbaBwbCuaebBsadbCuaebBsambCuaabBbaCrbCuaab",
    "BsaClbGmaJvbCuavbBscfbBscBlbBscfbBschbBsbabBsbabBsbabBsbBebBscCabBsbobBsbnbBscfbBsbsbBsccbBsbi",
    "bBsblbGnabbGmaDibGnbkbGnaabCuckbGnaabCuaobGnbmbCudBhbGnoBgbGmpBlbGnaabBsacbGnabbCuafbGnaabCuaB",
    "abGnaabCuaqbGnaBobCuacbGneZpbGnwkbGnvBJrbGnaJvbpaYdbGncFhbGnaDrbBnaBfbCuaElbyfgbyaBlbBmbabBmfa",
    "bBmcCdbFshbbFsoabFsawbBkjgbBkbgbBkbgbBkbgbBkbgbBkbgbBkbgbBkbgbBkbBfbBbaDpbGnBizbBxbDkbBxmIfbBx",
    "BaubGnaabBxaabGnaabBxaybGnaibBxadbGmabbBwahbGnadbBxadbGnbDhbCbcbbGmabbGnacbCbaabGnaDlbCjabbGna",
    "cbCjfBqbnbDpbBwbpbGnaBfbnaBlbGnjabGnapbCjaBebBwbClbGnaBebBwaDcbGnaBubCjaabGnaDjbCjaGlbGnaJTnbB",
    "xaClbGnaBFBjbBxaBSubGkdCcbGkjBvbCzaLnbGduDrbBbaDjbiiBhbGnaDxbCuacbGnaDdbCuuobCuaBsbFidjbGngCdb",
    "EkiCrbEvilbEvgBfbBcaBtbCiaabGnaabCiaBjbEqlabEqaBcbBwdCzbChbabGnajbChebbChaBebDrbCcbvjnbvcjbvcd",
    "bvaBfbDraCobFqyebFqawbDpkfbBkcfbBkcfbBkjgbBkbgbBkbBqbCuaabGnaibCuaabBsadbCuabbGneDbbwaBtbDpcjb",
    "DpgQNrbBwmwbBweBwbBwMNcObbBxcEbbBxBmgbCumebffzbCabebCababCabbbCabbbCabjbCaaSzbdabbGnaFnbdBgpbd",
    "apbGmajbGngnbGmabbBbaBibGnbsbGnbdbGneebdbFebdcabGnbBfbGnazbCuafbGnazbCuakbGnajbCjaabGnaBsbCjab",
    "bGnaBebBwdfbBwcfbBwcfbBwccbBwdgbGnbgbGnkebGnclbCybzbCybsbCybbbCybobCycnbCyBiEsbCyfcbGneBsbGndi",
    "bGnaDabBsbmbGndabBsBvBsbGnaabGmFaBcbDadBwbupabGmaBabGneBjbCgjcbCgaBabBqfBqbEjfBdbGcbabGcaBjbGh",
    "enbGhBqDbbBfaBvbExaBdbEfcjbEfgBjbEeeBjbEeeBnbBiiBzbblabbakbGebobGebgbGebbbGebkbGebobGebgbGebbb",
    "GedBzbFzmLybCxjvbCxkhbCxyfbCubBpbCubibCuCrfbBacabBabBrbBabbbBadabBacabBaavbebibeaBfbEhaBebDvii",
    "bDvBwsbBzbbbBzfebBzaBbbEndabEnazbDbfabDbCmBfbDkaxbDjetbDjcBtbDjadbClbbbClfhbClbcbClbBcbClccbCl",
    "ejbClhibClhBfbEuaBfbDuBgBmbDfelbDfjCbbgdgbgavbEpchbEpasbElfhbElarbEmhdbEmmgbEmDcCubEcCdBybCfnB",
    "ybCfhfbCfaBnbErijbErgBlbBldBcbBlibbBlIaBebdbBpbGjbcbGjcbbGjqfbdiibdBhfbdaBnbFdiBpbFcwzbEgBmBbb",
    "xuwbBjjCzboeBjbojaboaCobCrkabCrcybFehjbFegCabsbrbsiBmbDcjDrbEybtbFblrbCnbBubCnCkgbDqbabDqbdbDq",
    "bobDqbkbDqgCgbFafjbFagdbBrbhbBrcbbBrcvbBrbgbBrbbbBrbebBrbabGmaibBrcbbBrccbBrcabBrgabBrfgbBrcgb",
    "BrdebBrljbGbbabGbcabGbbBlbGbbjbGbbabGbcabGbbdbGbbjbGbbbbGbibbGbBdDnbDwbebDwBeCtbFxijbFxGkCbbEz",
    "cBlbEzBiCqbDmljbDmgmbDntCfbFlgjbFlgtbDrBcBabccobcewbcHdChbBeDwDebGfmabGfagbBdcabBdchbBdbbbBdbB",
    "dbBdbbbBdclbBdjjbBdCshbDtcBtbDtckbDtBbCtbGliDebFfnpbtaCebEihjbBcDihbEyDkBhbFhojbFhgibmbBsbmbnb",
    "mkBcbmdBfbDgcvbDgbnbDgCvgbBpbbbBpbBrbBpdabBpbbbBpbibBpijbBpgfbBobbbBobBkbBobbbBobfbBohjbBoLyyb",
    "DdhqbCkbBobCkdBcbCkDhabCzpBxbFonabFoaBJlbGiDyEgbGibebGilHnbGiDXkDubznBQrbBhkFXqbBhfWkbCcKDdCfb",
    "BuCOsVwbihBebDobjbDoebbDoaDabFybjbFygBdbjcfbjkCrbCdkjbCdbgbCdbubCdfsbCdQqCfbCqHqDmbDhDxCwbEoeC",
    "ebEohqbEoCmabFpaabDyabbBxaabColgbBxjKFvbFpaSbbCoBpabCoaBebFpDtEkbFpMWrdbCjbgbCjbbbCjbabCjaLabC",
    "bacbCjpabCbBdcbCbcabCjodbCjiPfbDyDKuEcbBgfmbBgdibBghjbBgcdbBgadbGnFVgJsbGndQtbGngwbGnpqbGnpBtb",
    "GmcwbGmjElbGnCiJlbGnkBmbGncCjbGnacbGmaqbGnahbGmabbGnagbGmaBdbGnadbGmaCibGnvCrbBsEstbGnmtbGnmDi",
    "bGnjybGnFfDgbGnbCsbGnbbbGncabGncbbGncdbGnblbGnbabGnbgbGnbCmbGnbdbGnchbGnbgbGnbBbbGnbdbGnbebGnb",
    "abGndgbGnbNbbGncLfbGncBxbGnaZbbEwpebEwbobEwBQmBebCugfbCuIfgbBnbqbBncgbBnbbbBnbebBnfCjbBbBhabBb",
    "EiBsbCednbCecjbCeebbCeMiBebGarCfbGgfabGgRwBpbDsIgBqbEbeabEbSmgbBkbdbBkbbbBkbobBkbHobDicpbDiBpC",
    "xbaejbaebbaBEfCpbGnCyCibGnHmdbdbBabdbbbdbabdcabdbjbdbdbdbabdbabdgabdeabdbabdbabdbcbdbbbdbabdca",
    "bdbabdbabdbabdbabdbbbdbabdcdbdbgbdbdbdbdbdbabdbjbdbqbdfcbdbebdbqbdCabbdKkBrbGneDvbGnmobGncobGn",
    "bobGnbBkbGnkGrbGnCezbGnaabCbabbGnnBrbGneibGnhbbGnofbGnFyBLwbGndqbGndmbGndIjbGnglbGneabGnplbGne",
    "CdbGnijbGngBnbGniBdbGnclbGnebbGnoibGnBnNfbGninbGncmbGndkbGndCebGnbabGnepbGnclbGnejbGnhFqbGnbDy",
    "bGnBNpCLFbbBxBgGMnbBxcIObbBxcLBkbBxpXxbBxDQwUvbBxCFyHHybBxfMOnbBxBOGOdabGnBeDrbGnEyJfbGm"]

/-- The yes-or-no properties, each with its names and the table of its members. -/
def flagTables : List (List String × List String) :=
  [(["ahex", "asciihexdigit"],
      ["BwjhfBaf"]),
    (["alpha", "alphabetic"],
      ["CnzgzBvakaeafwbBebRpeloehabaDiaBdrbbcdbagabcbabtbDebFiiGjbBlcagBoBnnbabbbbbaiBaedBdkfCdbgoDxbh",
      "eheckccaqBvnDwyBgjbeafxcstyhkfxbghaiBpkldggCxbpbceonsbhcbcvbgbadddhcbcbbaiaebbembkaecbfebcvbgb",
      "bbbbbeeebcbeahdbarflcbibcbvbgbbbedibcbbdapdvdecbhcbcvbgbbbedhcbcbjbebbenaqbbfdcbddbbabbdbdcdle",
      "edcbcdagaBombcbwbpdhbcbcibbcbbcdBcdbhbcbwbjbedhbcbcibfcbdncmmbcbBochbcbcbafdhewfbcbrdxbibacgif",
      "babhsbnCffggaBzbbabebxbabsbccebagaodBgaClhbBjesepbBjCpCcbaceqClkdcBlbafacBqbMubdcgbabdcBobdcBg",
      "bdcgbabdcobCebdcCoBlpqDhcfdXvcqbzfCwdkhtlumtmmbcbbmBzcsoaeaCpDkhBqfCrkBebleixBdcelBrezCcBbeCkc",
      "tByaxblcBxBzbobhBzBpcdkBrbkoCcwckBjckfBqccBpdbfbbdafHjtBhlKrcfcBlcfchbabababBecCabgbadcbgddcfe",
      "mfcbgEmanaqmDxaeacjbadegabababdbkcdfeearBoBFhBzCRuIugddbmBlbafacCdhaqwjgbgbgbgbgbgbgbgbBfBvaSb",
      "cziheceeDhgcbDlbdfBqbDprBfBwpTsJTnCmBGUeCpBtcKidpkbuBufhdEiBnicDycDduubBgyBzmCpbaBsfdabckBgfBi",
      "nBcdByblpaqpkebCcjnswdCqbabayccpcdlfcfcfjgbgbBqbngEsvQNrmweBwMNcObcEbBmgmeflbmbebabbbbbEdBhNys",
      "ClcCbBolEmebFeBkzgzlDkdfcfcfccBjlbzbsbbbocnBiEsCrCaKhBcdBwBvBfnBdfBqfBdcBjehbeBqGbsBjeBjeBniBz",
      "mkbobgbbbkbobgbbdBzmLyjvkhyfbBpbiCrfcabBrbbdacwkwjBeCnsbbkvkzgzBmCdgbCmdbbfhbcbBcBqBcdBcBjhbBb",
      "BbCbkvksnrEgCuCdBynBynBnBiBbdafwJqBpbbdbqfBycdBckaivBqrBuuBbwjCrBrekCejanyxByrdiBidajClbdjbkab",
      "aBjrbBhcagdCkgbabdbobjhCexdbhcbcvbgbbbedhcbcbdagafgBcjbacabBlbjbacabdbbdabaBsCnbcbducBeCncbbaH",
      "cCbcgzfBiCkbadaChCbcaCtBacnvgHdCeDzClBfhcachbbbBdbbcbcdDphcBtcfbabbBbBycjrCtfasCuDzhDkBgBfibBs",
      "bgbaBxBdcvbnCvgbbbBrdabbbcbacbyfbbbBkbbbdbaxBrKawjqbBodcEhaDbBJlDyEgrHnDXkDspBPfrfzFXqfWkKDdBu",
      "CPdVwhBerDarBdsBvqdBfufsQqBsIdClBgycyBsCweCehqCmbbamgjKXxBpBfDtEkMWrdbgbbbLepaBdccaodiPfDKuEcf",
      "mdihjeaIWfDgbCsbbcacbcdblbabgbCmbdchbgbBbbdbebadgbNbcybybBebybBebybBebybBebybhCSyBegfIfgbqcgbb",
      "befCjBhaEiBskgqaMjBdsBrSqBbIuBdcaHzBebvibIqgbdbbbobHoChCpdadaBUidbBabbbacabjbdbabagaeabababcbb",
      "bacabababababbbacdbgbdbdbabjbqfcbebqYezgzgzFMkCLFbBgGMncIObcLBkpXxDQwUvCFyHHyfMOn"]),
    (["bidic", "bidicontrol"],
      ["CIeaJVlbBaeCdd"]),
    (["bidim", "bidimirrored"],
      ["BobsabaBcabaBdabaBtapaFMsdCUnbDQqbkbCcbobGvaHkddfdadbddbdbabaeifabrfdjbbabhbBfcdfajbcsfbjecbex",
      "cpidubhbBPtnCwacdbbbcfdfcdnPnvcfbniahfdaeebbceeabccbkfcbmsbdcabacabdfbgcyblbedbbcbeBqchbBnfaba",
      "defceadebaJwaTvddbbbobcjBrhQljchDACrffbGgbsabaBcabaBdababbbbDDPnaCfaCfaCfaCfa"]),
    (["ci", "caseignorable"],
      ["BnagalaBjabaCtaeabaeacbTjHjebeajbbaJrgHzafaBxBsbabbbbbaBsalfkkbaBjakuqaDxhbjbdBhabaBeBaDnkCgke",
      "acayxBrcBsahbfiBpCfCdabaeheadgkbnapaCgaediaubBaacbCfaebebccdaBebdalbCfaeebbeaubwfbaCgacabdiahb",
      "lbBeaCjamaByadaCdabcfcbdhblbBdaCgacagafbubBcbCfbediaubBdaCuahcbaDmacgliDuacijabgCvbBbababaCdnb",
      "ebbfkbBjjaDydbfbbcbzbecqdnacbgapaDqaXkcBKkcBdbBebBebCmbbgiackdafaBteBzaCnbBiaEocebjagcIlbcaCga",
      "bgbabachgjcaBnaiBtcludBwabebafaBoimbBgdcbbcCeabbdabcCghcbCmfDecbmbgeagadbByCknaBiDwRdabclcncnc",
      "nbmeibkacaceBxebjbanaqmBzBgEJrbEjcEvapaDsBfBvaSbaBkddefaDpfDpcBQBuaBWcfKkaDudbjbaBcdDcboBhDaax",
      "cDyddbiadaeazbfaFvbBarnaBmhzkBucBwacdcbravbCofcbcbmaiaBjalaBzabccbfbbaBbaobfbbaDwejcEracaeaBDZ",
      "saFrqWbpdampBiacaGnahagalaBjabaBvaBtbCpavcTtaIsaFteBNpfbBpbiWkcbbfdBoceaGjbWbdBmaBaebaMdbyaCaf",
      "CskBxdEtaCcoBpacbkcBxdcbcaeakaBycBkebhCkambCaikdcaDrccabbgacaGbadhvbCfbdaBlgdeCsfnababaobDhhcc",
      "baxaDgfbaebbbJedgbbbBbbDhhcabbEcabacfbaDxabacdbeJzibbJwbbaeaFodcbeaBgjBofcdiajfccBumbbHqabcbaH",
      "tgbfbaDevcgbbbbEsfdabbbgbaCubdabaCnaKvblbCaefabaxaHXdqgoQYyldcDSaeChgjdTocBobSoaClqCmbbbnbYGad",
      "bgbbEUgbbdGYuBtcwUycjpcgBedFscCYdCceBxiaoaweboCAigbqcgbbbefCjBhaGenOeaCjdTneJubJjacahbfajaRwgE",
      "fhEBfeBSXXpaBeDrEyJf"]),
    (["cased"],
      ["CnzgzBvakaeafwbBebHmbdeHzcBihbBeeDsaBqdcbcdbagabcbabtbDebFiiGjbBljBoEFfBlbafacBqbdZwDhcfDFukfB",
      "qccCmHjCmKrcfcBlcfchbabababBecCabgbadcbgddcfemfcbgEmanaqmDxaeacjbadegabababdbfeacdfeearBfdbBFl",
      "BzCRuIugddbmBlbafaBTWcBtsBdFcDxddbCyufbcBFpBqbngDbBEAigmeBNtzgzBTtDbDsBjeBjEmkbobgbbbkbobgbbRj",
      "accbBpbiBUzBynByDpvkvEFiClBGIqClBgycyBMIeDgbCsbbcacbcdblbabgbCmbdchbgbBbbdbebadgbNbcybybBebybB",
      "ebybBebybBebybhCSyjbtgfKbCjDGkCpDAazgzgz"]),
    (["cwcf", "changeswhencasefolded"],
      ["CnzDmakwbhBgabababababababababababababababababababababababababababacababababababababbbabababab",
      "ababababababababababababababababababbbabababbbabbbccdbbbcdbbbbababbbacabbbcbabbdahbbbbbbababab",
      "ababababacababababababababacbbabcbababababababababababababababababababababababababababababahbb",
      "bcabdbabababaJmaBqabadaiagabcbabbbqbiwamcdbbababababababababababababbcbbabbcByBwababababababab",
      "abababababababababajabababababababababababababababababababababababababababbbabababababacababab",
      "ababababababababababababababababababababababababababababababababababababababababababababacBlBw",
      "aEFgBlbafaBFefDFujgBqccMiababababababababababababababababababababababababababababababababababa",
      "babababababababababababababababababababababababababababababababababababababababafbcabababababa",
      "bababababababababababababababababababababababababababababababababababababababababababajhifkhih",
      "iflabababaihqBvcccffccfldmefccfLladbgaBtptaBFmzCSuBvBwabccabababdbacaicbababababababababababab",
      "abababababababababababababababababababababababababababababababababababababaiabaeaBTYjababababa",
      "babababababababababababababababababatabababababababababababababaFfababababababadababababababab",
      "abababababababababababababababababababababababakababbbabababaeabacabadababababababababababebeb",
      "abababababababdbabbbabababababababayaBIgDbBEAigmeBNtzBUzBnFgBjGakbobgbbCQcByGbvEGoBfBGJwBfCmyB",
      "UHzBh"]),
    (["cwcm", "changeswhencasemapped"],
      ["CnzgzCgakwbBebClbDfbBbcncbbaeDobrgBabbbabbdbbdbecabbcahacabbdffakbGkaBqdcbdcbagabcbabtbBudBgbe",
      "bFciGjbBlkBmEFgBlbafacBqccZwDhcfDFukfBqccHdadaqaEjFzcabEncfcBlcfchbabababBecCabgbadcbgddcfemfc",
      "bgLladbgaBbarBfdbBFlBzCRuEibbbbhDxhddbmBlbafaBTWcBtsBbFencCjjodccebybBsybBHcaBcDbBEAigmeBNtzgz",
      "BTtDbDsBjeBjEmkbobgbbbkbobgbbCOpBynByDpvkvEFiClBGIqClBgycyBUGyCp"]),
    (["cwl", "changeswhenlowercased"],
      ["CnzDxwbgBhabababababababababababababababababababababababababababacabababababababacabababababab",
      "abababababababababababababababababbbabadbbabbbccdbbbcdbbbbababbbacabbbcbabbdahbbbbbbababababab",
      "ababacababababababababacbbabcbababababababababababababababababababababababababababababahbbbcab",
      "dbabababaLdabadaiagabcbabbbqbiBjaiabababababababababababafacabbcByBwababababababababababababab",
      "abababajabababababababababababababababababababababababababababbbabababababacababababababababab",
      "ababababababababababababababababababababababababababababababababababababababacBlEHdBlbafaBBuDh",
      "DGlagBqccMiabababababababababababababababababababababababababababababababababababababababababa",
      "bababababababababababababababababababababababababababababababababajabababababababababababababa",
      "bababababababababababababababababababababababababababababababababababajhifkhihiflabababaihyhih",
      "ihieleldmeleLladbgaBtptaBFmzCSuBvBwabccabababdbacaicbababababababababababababababababababababa",
      "babababababababababababababababababababababababababababaiabaeaBTYjabababababababababababababab",
      "ababababababababatabababababababababababababaFfababababababadababababababababababababababababa",
      "babababababababababababababakababbbabababaeabacabadababababababababababebebabababababababdbabb",
      "babababababababayaBHAhzBUzBnFgBjGakbobgbbCQcByGbvEGoBfBGJwBfCmyBUHzBh"]),
    (["cwt", "changeswhentitlecased"],
      ["DtzCgaBpxbhbabababababababababababababababababababababababababababacabababababababbbababababab",
      "abababababababababababababababababacababccabacadafacadccacababacaeacadabacadabaeabbbbbabababab",
      "ababababbbababababababababcbabadabababababababababababababababababababadababababababababaiacbb",
      "aeababababfbbbabbdbbdbecabbcahacabbdffakbGkaBrabadadcsaBbBibbdcbabababababababababababebacacaC",
      "aBvbababababababababababababababababajababababababababababababababababababababababababababacab",
      "abababababbbababababababababababababababababababababababababababababababababababababababababab",
      "ababababababaBxBmFMefDFuibaJeadaqaEkababababababababababababababababababababababababababababab",
      "abababababababababababababababababababababababababababababababababababababababababababababgfab",
      "ababababababababababababababababababababababababababababababababababababababababababababababii",
      "fkhihifkhihinchihihiebbgadcbbidcbihkcbbNeaBhpeaBGlzCTqBvbadbbababagacakabababababababababababa",
      "babababababababababababababababababababababababababababababababababababababaiabaeamBlbafaBTWda",
      "babababababababababababababababababababababatabababababababababababababaFfababababababadababab",
      "abababababababababababababababababababababababababababakabacababababaeaeabbcababababababababab",
      "alabababababababaeabacabababababababaBaaBHcaBcDbBEAigmeBOzzBVhBnFgBjFzkbobgbbCRbByEvvEGoBfBGJw",
      "BfChyBUIgBh"]),
    (["cwu", "changeswhenuppercased"],
      ["DtzCgaBpxbhbabababababababababababababababababababababababababababacabababababababbbababababab",
      "abababababababababababababababababacababccabacadafacadccacababacaeacadabacadabafbbbbbbabababab",
      "abababbbababababababababbbbbadabababababababababababababababababababadababababababababaiacbbae",
      "ababababfbbbabbdbbdbecabbcahacabbdffakbGkaBrabadadcsaBbBibbdcbabababababababababababebacacaCaB",
      "vbababababababababababababababababajababababababababababababababababababababababababababacabab",
      "ababababbbabababababababababababababababababababababababababababababababababababababababababab",
      "abababababaBxBmEHcBqccBDgfDFuibaJeadaqaEkababababababababababababababababababababababababababa",
      "bababababababababababababababababababababababababababababababababababababababababababababababa",
      "bgfabababababababababababababababababababababababababababababababababababababababababababababa",
      "babiifkhihifkhihincCabbeabadcbbeaddcbihkcbbeaMzaBhpeaBGlzCTqBvbadbbababagacakababababababababa",
      "bababababababababababababababababababababababababababababababababababababababababaiabaeamBlbaf",
      "aBTWdababababababababababababababababababababababatabababababababababababababaFfababababababad",
      "ababababababababababababababababababababababababababababababakabacababababaeaeabbcabababababab",
      "abababalabababababababaeabacabababababababaBaaBHcaBcDbBEAigmeBOzzBVhBnFgBjFzkbobgbbCRbByEvvEGo",
      "BfBGJwBfChyBUIgBh"]),
    (["dash"],
      ["BtaCAuaBzaFKjaBNpaDBdfCjaBnapaPaaEOiacaBfbeaBcaReataEhaCZWabBlakaGnaFLoaMga"]),
    (["di", "defaultignorablecodepoint"],
      ["GraZxaBBoaEGwbCKhbDheDApeBaeBxpGKyaCZMppJfaGeaDbiCTLndHWxhBTKZlGBn"]),
    (["dep", "deprecated"],
      ["MraBYvaDKtabaDCjbDIjfBAvbBZRYka"]),
    (["dia", "diacritic"],
      ["DqabaCtagaeacbTjGcbhffrbeajbJteIbaCdBsbabbbbbaFbhebFebebdcCpBaDnkCgkBibEwhBpjqBbCjaqaddBcaCwaq",
      "aEgaqaEgaqaBvcCiaqahaEpaEgaqaEgaqaEfbqaEuaEhamfbaEdaneCxbBbababaebCocbbCkaEiabbBobeezgbakbBBdc",
      "BKmbBeaFskjaNjcLgauhcaBwockdoclCuapaBmiCcbCgalbCobCmfDeyeagaccByCkBwBjflBlkRdabclcncncnbEXkcMf",
      "aTmfEbdDraBSMkambbaBcbDeboBhDycDyagbmaBlaFvaBbrCfdBkaDramaBkaFtcCndBzaDwejcEybBDZsaBDppKkabaBv",
      "aBtbCpaBDkaBTnfbBpbiYnceaGjbVzfBmaBaePgaccCskBxdHkaBpaCubEqbCkaCyajcEabGwbDcbqaygdeDlcbbnbDrad",
      "aEtbJrbEwaEobElaKjbJybeaGaaDfasaDdaQfaJyabbDdaCnaNvbxaHYaoQZpaDSaeChgVsbVaqDcbYGcdbgbbLThBtcwU",
      "ycdfihcgBedFMwCjHmgOlaCjdBDmbBCigEfcbc"]),
    (["emoji"],
      ["BjagafjEhaeaLYramaIiawaDmfpbOdbmaGkazkecHraIxbkajaCgdbejacacbcaeacabbcadadbicfabafllbcabbbasac",
      "bsfbabbdbfacbeblbfbcafbbabbubffbdcaeacacfbacababagadagakbpacaeabaecbalbBwcjaoaoaOibRvctbBzaeaB",
      "VuamaXdabaGMRqaHuaGebmboacjCxzbbxauacivbGsBhcEhcbbccDeccbKcbCklfbxhbchmacdcaebnbcaibjafcmcicca",
      "baeagadagDhBwCrfhcddjdabbdacjItleaKxBubjbHcEimdkdCebaepclej"]),
    (["ecomp", "emojicomponent"],
      ["BjagafjMBjaIfaDFTraDOIwzTneCEadBSVUqDr"]),
    (["emod", "emojimodifier"],
      ["HHIxe"]),
    (["ebase", "emojimodifierbase"],
      ["OLhaIlaqdGSJvaCiccaccEnbckvsdaecbchabayaHtbeavaebGscdeDfaqcjalaWdacaihgajjccCeaCjbbbbarcbmIvcB",
      "qi"]),
    (["epres", "emojipresentation"],
      ["NHqbHxddacaUbbvbBylBratanaibrbfbiafavahbbaeacahaebBcaBjabaecbaCjcyaoaBHbbBzaeaGPLeaHuaHiacjCxz",
      "bayauacebcvbGsBgmibCrbvmBqeemqdadCsbabHecCkndbxsaBabnaDiDgBwCrgadccdddlbhiItleaKxBubjbHcEimdkd",
      "Cebaepclej"]),
    (["extpict", "extendedpictographic"],
      ["GnaeaLYramaIiawaDmfpbOdbmaGkazkecHraIxbkajaCgdbejacacbcaeacabbcadadbicfabafllbcabbbasacbsfbabb",
      "dbfacbeblbfbcafbbabbubffbdcaeacacfbacababagadagakbpacaeabaecbalbBwcjaoaoaOibRvctbBzaeaBVuamaXd",
      "abaGMRqaBndDwlpbpaobBljEibmboacjtCdBbokauacibdjwgHfcEhcbbccDeccbdfJtbCklfbxhbchmacdcaebnbcaibj",
      "afcmciccabaeagadagDhBwCrfhcqdabfcmIkBlmdCehkfBohBebmdcnjBmmBubjbHcDkhoFpJwBNh"]),
    (["ext", "extender"],
      ["HbaUqbBHuaQzaYgaFhaDlaBCyaExaDNfaCeaXnaPiaCqaHKjaBreDzbDpcBQBuaCGsaBLaawaFhaEeavbBFZvaDBkbCFba",
      "BbaeaBVbaLhaEmbTecBVjaBGaaBDIebBTkbbaobBQXkbBUfaBGuc"]),
    (["grbase", "graphemebase"],
      ["BgDqBhmbWvEihcfegbabtbIphGjbBlcBxccBuabacacajBaefrjlabBtvpbDwiagbcaeBfcabBdBdDklaoBqjgdxeajada",
      "hobyfabkfBfqBpCfCcbabdidbchjcBcbbbhcbcvbgbadddabbgbcbbanbbcexfabfebcvbgbbbbbbecydbahjccbamabib",
      "cbvbgbbbeddiabbdapbelhaibbhcbcvbgbbbedacagbcbpbbcerlabfdcbddbbabbdbdcdlfabbdcbcdavugcbhbcbwbpd",
      "addtcbbcbejhjbkbcbwbjbedbcabbxcbbejbcokbcbBocabbfcbcbbecbjezcbbrdxbibacgjbgghjccmBvbblhimBlbba",
      "bebxbabjbbjacebajjcdBgxcBabababnbBjsafaceBxhbfbmBlBseagacbcycddpembbcfbobBnbafacOmbdcgbabdcBob",
      "dcBgbdcgbabdcobCebdcCofBcdzgDhcfcZsdDkhrnsdbjrombcpBzcahhbblidjgjgkfjgDkhecBhbafCrkBeedccebbfh",
      "adBpcelBrezgkdCecbdCdbajabbifnjgjgnDiBvkddhbBcjlcBfebgCdbaccbanBvibfodCjfBqcklanahdbfbccafHjCm",
      "KrcfcBlcfchbabababBecCabobncfbsccbibkfxhBwqbcBabmdBhCkFjeZpwkvCRrcOmdbfBsbafacCdhbpwjgbgbgbgbg",
      "bgbgbgBhDpBizbDkmIfBaCfgpbDheDwfBqbDpbDhjBvbBRIqdCcjNjuBueakBfcDbcfiImuqbcbdbyceejgCdiCpklymbB",
      "liylamBdgBvbbebcbbmbkegbybBogbcblcbhbacjcBfbBybadbcecabayqchlfcfcfjgbgbCheEmbbbddjgQNrmweBwMNc",
      "ObcEbBmgmefabxbebabbbbbYzBgpqjwBibsbdeebFeeGacBedfcfcfccdgbgnbclbzbsbbbocnBiEsfceBsdDjbmdaBvBs",
      "FbBcdBwqBaeBjjBdfBlkBdbBkenBqGbcjgBjeBjeBniBzllbobgbbbkbobgbbdBzmLyjvkhyfbBpbiCrfcabBrbbdacwbC",
      "tiiBwsbbfBgdBafBaBmCdetcBupdbcbBckihihClBgBkgljCbdBccBafzhdmgDcCuCdBynByhBpmjgBlixibIaBebBpdac",
      "bqfiiBnBnivliwredBmBbuwjabCbpgeBdbbcamBwebcbbdoyhjjBjfajriBibclBzjabhebbpbtlrbBbdbefbbClgbabdb",
      "obkgBubcnjibbhcbcvbgbbbedababdcbcbdamgBcjbacabBlbabbpabbdabcbbBnCdibdabubabcBeBvbbgabbbacacdij",
      "GkBubbgdcacBaBkByibbacdljgmtBqbabbibgjgtBcBadabbeajwHdBujacaDwDemhcachbbbxbebbgdbcjjCshcBpidbd",
      "BbakBngbehjagbdBtnacinCuhjDjadabaDkBhojgibBloabfkBcdBfzahacaCxgbbbBlvajjgfbbbBkebbabahjgBrejJm",
      "scdjobBjibdwDiapBxnBJmDyEgbelHnDXkDunBPfrfzFXqfWkKDdBdmcdjCOsVwhBebjeDcbjgBdhakBvhokjbgbufsQqC",
      "fHqDmfycyBsCwfCdlmCmdoejKXxBpBfDtEkMWrdbgbbbLepaBdccaodiPfDKuEcfmdihjcacaFVkJsdQtgwpqDrElCiJlk",
      "BmcChfcwbhBdeCivCndaEstmtmDijyFfDgbCsbbcacbcdblbabgbCmbdchbgbBbbdbebadgbNbcLfcVpCddByhbnbgBRwB",
      "egfKbCjFqBskgcjebMiBdsBrejfaRwBbejIgBdckeaHkBebcbbbgcejbIqgbdbbbobHociBwCphaejebBEfCpCyCiHmdbB",
      "abbbacabjbdbabagaeabababcbbbacabababababbbacdbgbdbdbabjbqfcbebqCabKkBreDvmocobobBkkGrCeBcnBrei",
      "hbofFyBLwdqdmdIjgleapleCdijgBniBdcleboiBnNfincmdkdCebaepclejhFqbDyBNpCLFbBgGMncIObcLBkpXxDQwUv",
      "CFyHHyfMOn"]),
    (["grext", "graphemeextend"],
      ["BDoEhKpgKdBsbabbbbbaCukBwuqaDxgcfcbbdBjaBeBaDnkCgijaydbibcbeBrcChiBqxbBfCdabaeheadgkbBdaCgabac",
      "diajakbBaacbCfaebebccdaBebdalbCfaeebbeaubwfbaCgabbbdiahckbBeaChabamajaBoadaCdabcfcbdhblbBdaCga",
      "cbbadcbdhblbBcbCfbbacdiajakbBdaCuaeaccbaiaDdacgmhDuacilgCvbBbababaCdnbebbfkbBjjaDydbfbbcbzbecq",
      "dnacbgapaBBbcBKkdBccBdbBebCmbbgiackjaBtcbaEnbBiaEocebjagcIlbcaCgabgbabachgjcaBwBtcludBwjecBmim",
      "bBgdcfCeabbdabeCehcbFwcbmbgeagadbHqClUeaHnBgEOccFlaDsBfVifEbbBSQedbjBgbDcbKmadaeazbfaFvbBarnaB",
      "mhzkbaBscBwacdcbcaBkaCpfcbcbmaiaBvaBzabccbfbbaBqbiaJeacaeaBDZsaBCjpqpOcbXhaIsaFteCMgcbbfdBocea",
      "GjbWbdCneMfbCzfCskBxdEtaCcoBpacbkcBxdcbhaCjcBkebhCkambCaibaidcaDrccdgacaGbadhvbCfbbabamajaogde",
      "CpacfbacabcecbaobDhhccbaxaDdacfbacabbbbJbacdgbbbBbbDhhcabbEcabachDxabacdbeJzibbJlakdeaFodcbeaB",
      "gjBofcdiajfccBumbbHqabcbaHtgbfbaDevcgbbbbEsfdabbbgbaCubdabaNjblbCaefcxaHXtagoQYyldcDSaeChgBOia",
      "CldDdalbBDAxbGYzBtcwUwedfihcgBedFscCYdCceBxiaoaweboCAigbqcgbbbeDwaGegOlaCjdTodJubJjacahbfaSggE",
      "fgBTCAfDrEyJf"]),
    (["hex", "hexdigit"],
      ["BwjhfBafDSLljhfBaf"]),
    (["idsb", "idsbinaryoperator"],
      ["SEabcjTda"]),
    (["idst", "idstrinaryoperator"],
      ["SEcb"]),
    (["idc", "idcontinue"],
      ["BwjhzeabzBvakabacafwbBebRpeloehabarEmbbcdbagebabtbDebFibecGjbBlcagBoiBsbabbbbbaiBaedBdkfCveDxb",
      "hcjbscaqCgcDwoCbeacacBtsBbekfxbghCwbEycjbsbhcbcvbgbaddcicbcdiaebbeclkabaccbfebcvbgbbbbbbcabeeb",
      "ccdahdbahplcbibcbvbgbbbecjbcbccapdcjjgbcbhcbcvbgbbbecicbcchcebbecjbaqbbfdcbddbbabbdbdcdleedcbd",
      "cagaojqmbcbwbpcibcbdhbbcbbcdcjqdbhbcbwbjbecibcbdhbfcbdcjbcmmbcbBybcbefdhecjkfbcbrdxbibacgdaefb",
      "abhgjcbnCffobjBnbbabebxbabwcebabgbjcdBgaxbgjlababaejbBjetbrbBjjaCfCvgCzcBlbafacBqbMubdcgbabdcB",
      "obdcBgbdcgbabdcobCebdcCoccjiopqDhcfdXvcqbzfCwdkhvjvltmmbcbbmDfdaebcjBhcbkgDkhBqfCrkBeblelkBnce",
      "lBrezgkBlBbeCkbBcckgjnainbBecluCydjrimElmCdijdBwckfBqccqcbBmfUncfcBlcfchbabababBecCabgbadcbgdd",
      "cfemfcbgpbBxbtaBcanaqmBzmeadlraeacjbacfgabababpcdfeearBoDZbIugimBlbafacCdhapxjgbgbgbgbgbgbgbgb",
      "BfTxczobeceeDhcgbDqfBqbDprBfBwpTsJTnCmBGUeCpBtcKidBbuBvejbEkBlicDycDduCceatBzmCrkjgxdabBwcBjmB",
      "cdCmokgBebCcjncjgwdCuyccpcekfcfcfjgbgbBqbngEsbbcjgQNrmweBwMNcObcEbBmgmeflbmbebabbbbbEdBhNysClc",
      "CbBolepqpdbycBgebFetjhzeabzkDldfcfcfccBjlbzbsbbbocnBiEsCrCaFgaFaBcdBwpaBfBfnBdfBqfBdcBjehbeBqG",
      "bcjgBjeBjeBniBzmkbobgbbbkbobgbbdBzmLyjvkhyfbBpbiCrfcabBrbbdacwkwjBeCnsbbkvkzgzBmCdgbCmdbbfhbcb",
      "BccceaBgBcdBcBjhbBdzCbkvksnrEgCuCdBynBynBnijgBldebwJqBpbbdbqfByBikaiBgBfvBquBbwjCsBfpjChhanyhj",
      "gCabjediBjcajCqedbmbaBjrbBkgdCkgbabdbobjhCgfjgdbhcbcvbgbbbebjcbcccagafgcgdeljbacabBlbjbacabdbh",
      "nbBdCwfjedBeCrbaijGkCbcixfBiCmdaljBmCehjgtBcBacoejggHdCgDxCvvhcachbbbBdbbcimjCshcBtchbbBbCkiai",
      "CvdasCuDzhDkBgpjgibBsbipjyBdcvbnCvgbbbBrdabbbiijgfbbbBkbbbfhjgBrejJmwjqbBodenkDhaDbBJlDyEgrHnD",
      "XkDspBPfqvkFXqfWkKDdCfCOsVwhBebjgDabjgBdcelCcjdmjjufsQqBsdjHqClBgycyBsCweCehqCmbbblgjKXxBpBfDt",
      "EkMWrdbgbbbLepaBdccaodiPfDKuEcfmdihjdbGErjTyBtcwUwedfihcgBedFscRbDgbCsbbcacbcdblbabgbCmbdchbgb",
      "BbbdbebadgbNbcybybBebybBebybBebybBebybhcBxTsCceBxiaoaweboBQmBegfIfgbqcgbbbefCjBhaEiBsdncjeaMjB",
      "erCfScBpIgBqHpBebvibIqgbdbbbobHolgBpCxejBTudbBabbbacabjbdbabagaeabababcbbbacabababababbbacdbgb",
      "dbdbabjbqfcbebqFAajBNqCLFbBgGMncIObcLBkpXxDQwUvCFyHHyfMOnBOGXyJf"]),
    (["ids", "idstart"],
      ["CnzgzBvakaeafwbBebRpeloehabaEzebbcdbagabcbabtbDebFiiGjbBlcagBoCtBaedBtBqBjbbDubapbhbkccaqabBdB",
      "dDklayBgjbeafveajadaxyhkfxbgqBpCgCbdasahjppehcbcvbgbadddaqanbbcobkaifebcvbgbbbbbbBfdbatcqibcbv",
      "bgbbbedasapbxalhcbcvbgbbbedaBebbcparabfdcbddbbabbdbdcdlwaCahbcbwbpdaBacbbcbBeaehbcbwbjbedaBecb",
      "bpbribcbBocaqafcicyffrdxbibacgCgBvbbmgCgbbabebxbabjbbjacebavdBgaClhbBjBbeElBquaqfeddadbhcemmar",
      "BlbafacBqbMubdcgbabdcBobdcBgbdcgbabdcobCebdcCoBlpqDhcfdXvcqbzfCwdkhrnsorombcpBzBjaeaCpDkhBobaf",
      "CrkBeBxBdcelBrezCcwjCaDeaDpBurhCcBdnbkBrBaBjBpckBjckfBqccBpdbfbbdafHjCmKrcfcBlcfchbabababBecCa",
      "bgbadcbgddcfemfcbgEmanaqmDxaeacjbacfgabababpcdfeearBoDZbIugddbmBlbafacCdhaqwjgbgbgbgbgbgbgbgVe",
      "cziheceeDheebDlbdfBqbDprBfBwpTsJTnCmBGUeCpBtcKidpkbuBuqBecDbBnicDycDduqbcbdbwBdBzoBxCkfdabblBb",
      "kwzBchBuBcaqebjkebBoxcbhuwdadBxbadbcecabaycckhcmfcfcfjgbgbBqbngEkBdQNrmweBwMNcObcEbBmgmefabjbm",
      "bebabbbbbEdBhNysClcCbBolEmebFeBkzgzlDkdfcfcfccBjlbzbsbbbocnBiEsCrCaKhBcdBwBvBfnBdfBlkBdcBjehbe",
      "BqGbsBjeBjeBniBzmkbobgbbbkbobgbbdBzmLyjvkhyfbBpbiCrfcabBrbbdacwkwjBeCnsbbkvkzgzBmCdgbCmapdbcbB",
      "cBqBcdBcBjhbBbBbCbkvksnrEgCuCdBynBynBjBmBbjwJqBpgbqfCeBckaivBqrBuuBbwmCaCfbcanBsBgyBaBjBdacaiB",
      "idamBvodvabaBjrbytbClgbabdbobjhBuBmhcbcvbgbbbedasameBejbacabBlbazabaBsCasducBeBvubbaHcBuBpdBkB",
      "vuaChBqnaCtBaBlgHdBrEmClBfhcachbbbxpabaDqhcBmqabaBcakBnhavalBttasCuHrBgBfibBkraBxBdEigbbbBlvaz",
      "fbbbBfoaxBrKaspabmbBhEuaDbBJlDyEgrHnDXkDspBPfrfzFXqfWkKDdBdCPuVwhBerDarBdsBvqdBfufsQqBsIdClBgy",
      "cyBsCwfaComCmbbaoejKXxBpBfDtEkMWrdbgbbbLepaBdccaodiPfDKuEcfmdihjIWkDgbCsbbcacbcdblbabgbCmbdchb",
      "gbBbbdbebadgbNbcybybBebybBebybBebybBebybhCSyBegfKbCjFqBskgqaMjBdsBrSqBbIuBdcaHzBebcbbbgcejbIqg",
      "bdbbbobHoChCphaBUidbBabbbacabjbdbabagaeabababcbbbacabababababbbacdbgbdbdbabjbqfcbebqGOaCLFbBgG",
      "MncIObcLBkpXxDQwUvCFyHHyfMOn"]),
    (["ideo", "ideographic"],
      ["SEwbziocBLdJTnCmBFBjBHSiObcEbBSIkanejKXxBpBfDtEkNLlPfBDEiCLFbBgGMncIObcLBkpXxDQwUvCFyHHyfMOn"]),
    (["joinc", "joincontrol"],
      ["MDob"]),
    (["loe", "logicalorderexception"],
      ["FKieEteEDsccaCCXmbcabb"]),
    (["lower", "lowercase"],
      ["DtzBvakaeaBkxbhbabababababababababababababababababababababababababababbbabababababababbbababab",
      "abababababababababababababababababababacababccabacadbeacadccacababacabbbacadabacbccgacacababab",
      "abababababbbababababababababbcabadabababababababababababababababababababababababababababababgc",
      "acbbaeababababCqcBihbBeeDsaBrabadacdsaBbBibbdcbabababababababababababebacacbBzBvbababababababa",
      "babababababababababajababababababababababababababababababababababababababacababababababbbababa",
      "bababababababababababababababababababababababababababababababababababababababababababababaBwBo",
      "EHbBqbdBDgfDFuibaEnHjCnabababababababababababababababababababababababababababababababababababa",
      "bababababababababababababababababababababababababababababababababababababababibabababababababa",
      "bababababababababababababababababababababababababababababababababababababababababiifkhihifkhih",
      "inchihihiebbgadcbbidcbihkcbbEranaqmEfadbdaBbaeaeacbideaBhpeaBGlzCTqBvbadbbababaeabbbhdabababab",
      "abababababababababababababababababababababababababababababababababababababababababababababbhab",
      "aeamBlbafaBTWdababababababababababababababababababababababatabababababababababababababcFdababa",
      "babababcbababababababababababababababababababababababababababababababjbabacababababaeabacabcba",
      "bababababababababafafabababababababaeabacabababababababavdbabcBFpBqbngDbBEAigmeBOzzBVhBnFgBjFz",
      "kbobgbbRjaccbBpbiBXlByEvvEGoBfBGJwBfChyBMJezBagbrBazBadbabgbkBazBazBazBazBazBazBazBazBaBbBcybf",
      "BaybfBaybfBaybfBaybfbaCSyjbtgfKbCjDHsBh"]),
    (["math"],
      ["BraqcBfaBdabaBtaeaBlaBfaBCaccaBabccUhcJWnaBbcladanaodveleCnmeadbeesaeacjbacfgadbcbbcbfdnbaCqxb",
      "fbbebeBfbagboKhidubDmaBeBabayalgRdbmjefebcbdeoabacflhfbCfabaBddjcMyClJwTrBwucfDASqaBFrfbaGgaqc",
      "BdabaBdabaFbagdFEfbCVGaaBXvDgbCsbbcacbcdblbabgbCmbdchbgbBbbdbebadgbNbcLfcBxIIqdbBabbbacabjbdba",
      "bagaeabababcbbbacabababababbbacdbgbdbdbabjbqfcbebqCabDTei"]),
    (["nchar", "noncharactercodepoint"],
      ["DSDcBfUgbDSYobDSYobDSYobDSYobDSYobDSYobDSYobDSYobDSYobDSYobDSYobDSYobDSYobDSYobDSYobDSYob"]),
    (["patsyn", "patternsyntax"],
      ["BhokgBadbaBadBigbabbbabbeaeadaxaBfaLUexiocsbjLtBBrGeYfBeBRnTsExOvceypaCZQzbKbb"]),
    (["patws", "patternwhitespace"],
      ["jesaDwaLYmbyb"]),
    (["qmark", "quotationmark"],
      ["BiaeaFbapaLWuhzbFIdaRpdncDABpdHhaeaDmb"]),
    (["radical"],
      ["RPwzbDkmIf"]),
    (["ri", "regionalindicator"],
      ["HGOkz"]),
    (["sterm", "sentenceterminal"],
      ["BhamaqaCAbaFrcGyaBrcJmaCjabadbLhbCPwbBEkaebBDtaHqbGbbBtafaMcbNqdGgbkbcbBdcHfbCnbBJwaxbjcEUxcLu",
      "anawbQnaBSHwaKkbItadaOsbDibDraFwbFrcFobJpaBFCwacbChadbGnamaqaCnaEDwbBXdeBsdHhbEndExcEzbgaqbDkb",
      "bbEeaLmbEnbOjbfoEbbJpcTxabaJrbDjbQebBAqbCwbBCMbbFdaCnblaVhbLkaBDOgaLIma"]),
    (["sd", "softdotted"],
      ["EbbHoaKvaBeaCaauaMiaDuabaJMnaBzanadaFcaGbaQfaIgbEGgaGELhbBybBybBybBybBybBybBybBybBybBybBybBybD",
      "FyaLtbBaa"]),
    (["term", "terminalpunctuation"],
      ["BhakabalbdaBFyaiaTtaCfaCuaoabcGyaBrkbaJbbCcfbhBfaKbbBWubGqaefLzbBEjhBDtaEucCtbGbcdaBndcbMcbNqd",
      "GgbkbbcBdcHfeCkbBJwaxbjcEUxcLuanaeakabbdbQmbBSHvbKjcIteOsbDibDraFvcFrcExaqbJpaBFCwacbCfcbdGnak",
      "abalbdaCnacaBPqaBwaBSoaHraLybFwfCqfDldBKqeBsdHhgEidExcEzbgaqbDkeEeaLmbEncmbNuddoEbbJpcTxabaJrb",
      "DjbebPycBtaYvbCwbBYxeBAMzbFdaCnckaVhbLjbBDOgaLIld"]),
    (["uideo", "unifiedideograph"],
      ["TSaJTnCmBFBjBICsbbabbkababbccDVEcCLFbBgGMncIObcLBkpXxGRqHHyfMOn"]),
    (["upper", "uppercase"],
      ["CnzDxwbgBhabababababababababababababababababababababababababababacabababababababacabababababab",
      "abababababababababababababababababbbabadbbabbbccdbbbcdbbbbababbbacabbbcbabbdahacacacababababab",
      "ababacababababababababacacabcbababababababababababababababababababababababababababababahbbbcab",
      "dbabababaLdabadaiagabcbabbbqbiBjaccdabababababababababababafacabbcByBwabababababababababababab",
      "ababababajabababababababababababababababababababababababababababbbabababababacabababababababab",
      "abababababababababababababababababababababababababababababababababababababababacBlEHdBlbafaBBu",
      "DhDGlagBqccMiababababababababababababababababababababababababababababababababababababababababa",
      "babababababababababababababababababababababababababababababababababajababababababababababababa",
      "babababababababababababababababababababababababababababababababababababajhifkhihiflabababaihCu",
      "dmdmdmeldKcaeadccccadegabababdcdkbfaBaptaBFmzCSuBvBwabccabababdbacaicbabababababababababababab",
      "ababababababababababababababababababababababababababababababababababababaiabaeaBTYjabababababa",
      "bababababababababababababababababatabababababababababababababaFfababababababadabababababababab",
      "ababababababababababababababababababababababakababbbabababaeabacabadababababababababababebebab",
      "ababababababdbabbbabababababababayaBHAhzBUzBnFgBjGakbobgbbCQcByGbvEGoBfBGJwBfCmyBMJfzBazBazBaa",
      "bbcacbcdbhBazBabbdchbgBbbbdbebadgBbzBazBazBazBazBazBeyBhyBhyBhyBhyBhaGNlBhDBizgzgz"]),
    (["vs", "variationselector"],
      ["JCtcbaDJCapBWNKyJf"]),
    (["wspace", "whitespace", "space"],
      ["jesaDwaBaaIHjaDPnkBdbfaBvaFXwa"]),
    (["xidc", "xidcontinue"],
      ["BwjhzeabzBvakabacafwbBebRpeloehabarEmbbdcbagebabtbDebFibecGjbBlcagBoiBsbabbbbbaiBaedBdkfCveDxb",
      "hcjbscaqCgcDwoCbeacacBtsBbekfxbghCwbEycjbsbhcbcvbgbaddcicbcdiaebbeclkabaccbfebcvbgbbbbbbcabeeb",
      "ccdahdbahplcbibcbvbgbbbecjbcbccapdcjjgbcbhcbcvbgbbbecicbcchcebbecjbaqbbfdcbddbbabbdbdcdleedcbd",
      "cagaojqmbcbwbpcibcbdhbbcbbcdcjqdbhbcbwbjbecibcbdhbfcbdcjbcmmbcbBybcbefdhecjkfbcbrdxbibacgdaefb",
      "abhgjcbnCffobjBnbbabebxbabwcebabgbjcdBgaxbgjlababaejbBjetbrbBjjaCfCvgCzcBlbafacBqbMubdcgbabdcB",
      "obdcBgbdcgbabdcobCebdcCoccjiopqDhcfdXvcqbzfCwdkhvjvltmmbcbbmDfdaebcjBhcbkgDkhBqfCrkBeblelkBnce",
      "lBrezgkBlBbeCkbBcckgjnainbBecluCydjrimElmCdijdBwckfBqccqcbBmfUncfcBlcfchbabababBecCabgbadcbgdd",
      "cfemfcbgpbBxbtaBcanaqmBzmeadlraeacjbacfgabababpcdfeearBoDZbIugimBlbafacCdhapxjgbgbgbgbgbgbgbgb",
      "BfTxczobeceeDhcbccbDqfBqbDprBfBwpTsJTnCmBGUeCpBtcKidBbuBvejbEkBlicDycDduCceatBzmCrkjgxdabBwcBj",
      "mBcdCmokgBebCcjncjgwdCuyccpcekfcfcfjgbgbBqbngEsbbcjgQNrmweBwMNcObcEbBmgmeflbmbebabbbbbEdBhFigI",
      "jsClcCbBojgpqpdbycBhabadababababEvtjhzeabzkDldfcfcfccBjlbzbsbbbocnBiEsCrCaFgaFaBcdBwpaBfBfnBdf",
      "BqfBdcBjehbeBqGbcjgBjeBjeBniBzmkbobgbbbkbobgbbdBzmLyjvkhyfbBpbiCrfcabBrbbdacwkwjBeCnsbbkvkzgzB",
      "mCdgbCmdbbfhbcbBccceaBgBcdBcBjhbBdzCbkvksnrEgCuCdBynBynBnijgBldebwJqBpbbdbqfByBikaiBgBfvBquBbw",
      "jCsBfpjChhanyhjgCabjediBjcajCqedbmbaBjrbBkgdCkgbabdbobjhCgfjgdbhcbcvbgbbbebjcbcccagafgcgdeljba",
      "cabBlbjbacabdbhnbBdCwfjedBeCrbaijGkCbcixfBiCmdaljBmCehjgtBcBacoejggHdCgDxCvvhcachbbbBdbbcimjCs",
      "hcBtchbbBbCkiaiCvdasCuDzhDkBgpjgibBsbipjyBdcvbnCvgbbbBrdabbbiijgfbbbBkbbbfhjgBrejJmwjqbBodenkD",
      "haDbBJlDyEgrHnDXkDspBPfqvkFXqfWkKDdCfCOsVwhBebjgDabjgBdcelCcjdmjjufsQqBsdjHqClBgycyBsCweCehqCm",
      "bbblgjKXxBpBfDtEkMWrdbgbbbLepaBdccaodiPfDKuEcfmdihjdbGErjTyBtcwUwedfihcgBedFscRbDgbCsbbcacbcdb",
      "lbabgbCmbdchbgbBbbdbebadgbNbcybybBebybBebybBebybBebybhcBxTsCceBxiaoaweboBQmBegfIfgbqcgbbbefCjB",
      "haEiBsdncjeaMjBerCfScBpIgBqHpBebvibIqgbdbbbobHolgBpCxejBTudbBabbbacabjbdbabagaeabababcbbbacaba",
      "babababbbacdbgbdbdbabjbqfcbebqFAajBNqCLFbBgGMncIObcLBkpXxDQwUvCFyHHyfMOnBOGXyJf"]),
    (["xids", "xidstart"],
      ["CnzgzBvakaeafwbBebRpeloehabaEzebbdcbagabcbabtbDebFiiGjbBlcagBoCtBaedBtBqBjbbDubapbhbkccaqabBdB",
      "dDklayBgjbeafveajadaxyhkfxbgqBpCgCbdasahjppehcbcvbgbadddaqanbbcobkaifebcvbgbbbbbbBfdbatcqibcbv",
      "bgbbbedasapbxalhcbcvbgbbbedaBebbcparabfdcbddbbabbdbdcdlwaCahbcbwbpdaBacbbcbBeaehbcbwbjbedaBecb",
      "bpbribcbBocaqafcicyffrdxbibacgCgBvbangCgbbabebxbabjbakacebavdBgaClhbBjBbeElBquaqfeddadbhcemmar",
      "BlbafacBqbMubdcgbabdcBobdcBgbdcgbabdcobCebdcCoBlpqDhcfdXvcqbzfCwdkhrnsorombcpBzBjaeaCpDkhBobaf",
      "CrkBeBxBdcelBrezCcwjCaDeaDpBurhCcBdnbkBrBaBjBpckBjckfBqccBpdbfbbdafHjCmKrcfcBlcfchbabababBecCa",
      "bgbadcbgddcfemfcbgEmanaqmDxaeacjbacfgabababpcdfeearBoDZbIugddbmBlbafacCdhaqwjgbgbgbgbgbgbgbgVe",
      "cziheceeDhgcbDlbdfBqbDprBfBwpTsJTnCmBGUeCpBtcKidpkbuBuqBecDbBnicDycDduqbcbdbwBdBzoBxCkfdabblBb",
      "kwzBchBuBcaqebjkebBoxcbhuwdadBxbadbcecabaycckhcmfcfcfjgbgbBqbngEkBdQNrmweBwMNcObcEbBmgmefabjbm",
      "bebabbbbbEdBhFigIjsClcCbBojEpabadababababEvBkzgzlCdcBedfcfcfccBjlbzbsbbbocnBiEsCrCaKhBcdBwBvBf",
      "nBdfBlkBdcBjehbeBqGbsBjeBjeBniBzmkbobgbbbkbobgbbdBzmLyjvkhyfbBpbiCrfcabBrbbdacwkwjBeCnsbbkvkzg",
      "zBmCdgbCmapdbcbBcBqBcdBcBjhbBbBbCbkvksnrEgCuCdBynBynBjBmBbjwJqBpgbqfCeBckaivBqrBuuBbwmCaCfbcan",
      "BsBgyBaBjBdacaiBidamBvodvabaBjrbytbClgbabdbobjhBuBmhcbcvbgbbbedasameBejbacabBlbazabaBsCasducBe",
      "BvubbaHcBuBpdBkBvuaChBqnaCtBaBlgHdBrEmClBfhcachbbbxpabaDqhcBmqabaBcakBnhavalBttasCuHrBgBfibBkr",
      "aBxBdEigbbbBlvazfbbbBfoaxBrKaspabmbBhEuaDbBJlDyEgrHnDXkDspBPfrfzFXqfWkKDdBdCPuVwhBerDarBdsBvqd",
      "BfufsQqBsIdClBgycyBsCwfaComCmbbaoejKXxBpBfDtEkMWrdbgbbbLepaBdccaodiPfDKuEcfmdihjIWkDgbCsbbcacb",
      "cdblbabgbCmbdchbgbBbbdbebadgbNbcybybBebybBebybBebybBebybhCSyBegfKbCjFqBskgqaMjBdsBrSqBbIuBdcaH",
      "zBebcbbbgcejbIqgbdbbbobHoChCphaBUidbBabbbacabjbdbabagaeabababcbbbacabababababbbacdbgbdbdbabjbq",
      "fcbebqGOaCLFbBgGMncIObcLBkpXxDQwUvCFyHHyfMOn"])]

end VulnProbe.Regex

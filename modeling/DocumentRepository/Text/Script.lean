import DocumentRepository.Text.Ranges

/-! # Scripts

Every code point belongs to one script. The table is one text: two letters for the script of a
run and the length of the run, which is left out when it is one. -/
namespace DocumentRepository.Text

def scriptLetters : List (String × String) := [
  ("adlm", "AA"),
  ("adlam", "AA"),
  ("aghb", "AB"),
  ("caucasianalbanian", "AB"),
  ("ahom", "AC"),
  ("arab", "AD"),
  ("arabic", "AD"),
  ("armi", "AE"),
  ("imperialaramaic", "AE"),
  ("armn", "AF"),
  ("armenian", "AF"),
  ("avst", "AG"),
  ("avestan", "AG"),
  ("bali", "AH"),
  ("balinese", "AH"),
  ("bamu", "AI"),
  ("bamum", "AI"),
  ("bass", "AJ"),
  ("bassavah", "AJ"),
  ("batk", "AK"),
  ("batak", "AK"),
  ("beng", "AL"),
  ("bengali", "AL"),
  ("berf", "AM"),
  ("beriaerfe", "AM"),
  ("bhks", "AN"),
  ("bhaiksuki", "AN"),
  ("bopo", "AO"),
  ("bopomofo", "AO"),
  ("brah", "AP"),
  ("brahmi", "AP"),
  ("brai", "AQ"),
  ("braille", "AQ"),
  ("bugi", "AR"),
  ("buginese", "AR"),
  ("buhd", "AS"),
  ("buhid", "AS"),
  ("cakm", "AT"),
  ("chakma", "AT"),
  ("cans", "AU"),
  ("canadianaboriginal", "AU"),
  ("cari", "AV"),
  ("carian", "AV"),
  ("cham", "AW"),
  ("cher", "AX"),
  ("cherokee", "AX"),
  ("chrs", "AY"),
  ("chorasmian", "AY"),
  ("copt", "AZ"),
  ("coptic", "AZ"),
  ("qaac", "AZ"),
  ("cpmn", "BA"),
  ("cyprominoan", "BA"),
  ("cprt", "BB"),
  ("cypriot", "BB"),
  ("cyrl", "BC"),
  ("cyrillic", "BC"),
  ("deva", "BD"),
  ("devanagari", "BD"),
  ("diak", "BE"),
  ("divesakuru", "BE"),
  ("dogr", "BF"),
  ("dogra", "BF"),
  ("dsrt", "BG"),
  ("deseret", "BG"),
  ("dupl", "BH"),
  ("duployan", "BH"),
  ("egyp", "BI"),
  ("egyptianhieroglyphs", "BI"),
  ("elba", "BJ"),
  ("elbasan", "BJ"),
  ("elym", "BK"),
  ("elymaic", "BK"),
  ("ethi", "BL"),
  ("ethiopic", "BL"),
  ("gara", "BM"),
  ("garay", "BM"),
  ("geor", "BN"),
  ("georgian", "BN"),
  ("glag", "BO"),
  ("glagolitic", "BO"),
  ("gong", "BP"),
  ("gunjalagondi", "BP"),
  ("gonm", "BQ"),
  ("masaramgondi", "BQ"),
  ("goth", "BR"),
  ("gothic", "BR"),
  ("gran", "BS"),
  ("grantha", "BS"),
  ("grek", "BT"),
  ("greek", "BT"),
  ("gujr", "BU"),
  ("gujarati", "BU"),
  ("gukh", "BV"),
  ("gurungkhema", "BV"),
  ("guru", "BW"),
  ("gurmukhi", "BW"),
  ("hang", "BX"),
  ("hangul", "BX"),
  ("hani", "BY"),
  ("han", "BY"),
  ("hano", "BZ"),
  ("hanunoo", "BZ"),
  ("hatr", "CA"),
  ("hatran", "CA"),
  ("hebr", "CB"),
  ("hebrew", "CB"),
  ("hira", "CC"),
  ("hiragana", "CC"),
  ("hluw", "CD"),
  ("anatolianhieroglyphs", "CD"),
  ("hmng", "CE"),
  ("pahawhhmong", "CE"),
  ("hmnp", "CF"),
  ("nyiakengpuachuehmong", "CF"),
  ("hung", "CG"),
  ("oldhungarian", "CG"),
  ("ital", "CH"),
  ("olditalic", "CH"),
  ("java", "CI"),
  ("javanese", "CI"),
  ("kali", "CJ"),
  ("kayahli", "CJ"),
  ("kana", "CK"),
  ("katakana", "CK"),
  ("kawi", "CL"),
  ("khar", "CM"),
  ("kharoshthi", "CM"),
  ("khmr", "CN"),
  ("khmer", "CN"),
  ("khoj", "CO"),
  ("khojki", "CO"),
  ("kits", "CP"),
  ("khitansmallscript", "CP"),
  ("knda", "CQ"),
  ("kannada", "CQ"),
  ("krai", "CR"),
  ("kiratrai", "CR"),
  ("kthi", "CS"),
  ("kaithi", "CS"),
  ("lana", "CT"),
  ("taitham", "CT"),
  ("laoo", "CU"),
  ("lao", "CU"),
  ("latn", "CV"),
  ("latin", "CV"),
  ("lepc", "CW"),
  ("lepcha", "CW"),
  ("limb", "CX"),
  ("limbu", "CX"),
  ("lina", "CY"),
  ("lineara", "CY"),
  ("linb", "CZ"),
  ("linearb", "CZ"),
  ("lisu", "DA"),
  ("lyci", "DB"),
  ("lycian", "DB"),
  ("lydi", "DC"),
  ("lydian", "DC"),
  ("mahj", "DD"),
  ("mahajani", "DD"),
  ("maka", "DE"),
  ("makasar", "DE"),
  ("mand", "DF"),
  ("mandaic", "DF"),
  ("mani", "DG"),
  ("manichaean", "DG"),
  ("marc", "DH"),
  ("marchen", "DH"),
  ("medf", "DI"),
  ("medefaidrin", "DI"),
  ("mend", "DJ"),
  ("mendekikakui", "DJ"),
  ("merc", "DK"),
  ("meroiticcursive", "DK"),
  ("mero", "DL"),
  ("meroitichieroglyphs", "DL"),
  ("mlym", "DM"),
  ("malayalam", "DM"),
  ("modi", "DN"),
  ("mong", "DO"),
  ("mongolian", "DO"),
  ("mroo", "DP"),
  ("mro", "DP"),
  ("mtei", "DQ"),
  ("meeteimayek", "DQ"),
  ("mult", "DR"),
  ("multani", "DR"),
  ("mymr", "DS"),
  ("myanmar", "DS"),
  ("nagm", "DT"),
  ("nagmundari", "DT"),
  ("nand", "DU"),
  ("nandinagari", "DU"),
  ("narb", "DV"),
  ("oldnortharabian", "DV"),
  ("nbat", "DW"),
  ("nabataean", "DW"),
  ("newa", "DX"),
  ("nkoo", "DY"),
  ("nko", "DY"),
  ("nshu", "DZ"),
  ("nushu", "DZ"),
  ("ogam", "EA"),
  ("ogham", "EA"),
  ("olck", "EB"),
  ("olchiki", "EB"),
  ("onao", "EC"),
  ("olonal", "EC"),
  ("orkh", "ED"),
  ("oldturkic", "ED"),
  ("orya", "EE"),
  ("oriya", "EE"),
  ("osge", "EF"),
  ("osage", "EF"),
  ("osma", "EG"),
  ("osmanya", "EG"),
  ("ougr", "EH"),
  ("olduyghur", "EH"),
  ("palm", "EI"),
  ("palmyrene", "EI"),
  ("pauc", "EJ"),
  ("paucinhau", "EJ"),
  ("perm", "EK"),
  ("oldpermic", "EK"),
  ("phag", "EL"),
  ("phagspa", "EL"),
  ("phli", "EM"),
  ("inscriptionalpahlavi", "EM"),
  ("phlp", "EN"),
  ("psalterpahlavi", "EN"),
  ("phnx", "EO"),
  ("phoenician", "EO"),
  ("plrd", "EP"),
  ("miao", "EP"),
  ("prti", "EQ"),
  ("inscriptionalparthian", "EQ"),
  ("rjng", "ER"),
  ("rejang", "ER"),
  ("rohg", "ES"),
  ("hanifirohingya", "ES"),
  ("runr", "ET"),
  ("runic", "ET"),
  ("samr", "EU"),
  ("samaritan", "EU"),
  ("sarb", "EV"),
  ("oldsoutharabian", "EV"),
  ("saur", "EW"),
  ("saurashtra", "EW"),
  ("sgnw", "EX"),
  ("signwriting", "EX"),
  ("shaw", "EY"),
  ("shavian", "EY"),
  ("shrd", "EZ"),
  ("sharada", "EZ"),
  ("sidd", "FA"),
  ("siddham", "FA"),
  ("sidt", "FB"),
  ("sidetic", "FB"),
  ("sind", "FC"),
  ("khudawadi", "FC"),
  ("sinh", "FD"),
  ("sinhala", "FD"),
  ("sogd", "FE"),
  ("sogdian", "FE"),
  ("sogo", "FF"),
  ("oldsogdian", "FF"),
  ("sora", "FG"),
  ("sorasompeng", "FG"),
  ("soyo", "FH"),
  ("soyombo", "FH"),
  ("sund", "FI"),
  ("sundanese", "FI"),
  ("sunu", "FJ"),
  ("sunuwar", "FJ"),
  ("sylo", "FK"),
  ("sylotinagri", "FK"),
  ("syrc", "FL"),
  ("syriac", "FL"),
  ("tagb", "FM"),
  ("tagbanwa", "FM"),
  ("takr", "FN"),
  ("takri", "FN"),
  ("tale", "FO"),
  ("taile", "FO"),
  ("talu", "FP"),
  ("newtailue", "FP"),
  ("taml", "FQ"),
  ("tamil", "FQ"),
  ("tang", "FR"),
  ("tangut", "FR"),
  ("tavt", "FS"),
  ("taiviet", "FS"),
  ("tayo", "FT"),
  ("taiyo", "FT"),
  ("telu", "FU"),
  ("telugu", "FU"),
  ("tfng", "FV"),
  ("tifinagh", "FV"),
  ("tglg", "FW"),
  ("tagalog", "FW"),
  ("thaa", "FX"),
  ("thaana", "FX"),
  ("thai", "FY"),
  ("tibt", "FZ"),
  ("tibetan", "FZ"),
  ("tirh", "GA"),
  ("tirhuta", "GA"),
  ("tnsa", "GB"),
  ("tangsa", "GB"),
  ("todr", "GC"),
  ("todhri", "GC"),
  ("tols", "GD"),
  ("tolongsiki", "GD"),
  ("toto", "GE"),
  ("tutg", "GF"),
  ("tulutigalari", "GF"),
  ("ugar", "GG"),
  ("ugaritic", "GG"),
  ("vaii", "GH"),
  ("vai", "GH"),
  ("vith", "GI"),
  ("vithkuqi", "GI"),
  ("wara", "GJ"),
  ("warangciti", "GJ"),
  ("wcho", "GK"),
  ("wancho", "GK"),
  ("xpeo", "GL"),
  ("oldpersian", "GL"),
  ("xsux", "GM"),
  ("cuneiform", "GM"),
  ("yezi", "GN"),
  ("yezidi", "GN"),
  ("yiii", "GO"),
  ("yi", "GO"),
  ("zanb", "GP"),
  ("zanabazarsquare", "GP"),
  ("zinh", "GQ"),
  ("inherited", "GQ"),
  ("qaai", "GQ"),
  ("zyyy", "GR"),
  ("common", "GR"),
  ("zzzz", "GS"),
  ("unknown", "GS")]

def scriptRuns : String := String.join [
    "GR1tCVqGR6CVqGR1bCVGRfCVGR5CVnGRCVvGRCVchGR13CV5GR5AO2GRkGQ34BT4GRBT3GS2BT4GRBTGS4BTGRBTGRBT3GSB",
    "TGSBTkGSBT1rAZeBTgBC3pGQ2BC4pGSAF12GS2AF1eGS2AF3GSCB1jGS8CBrGS4CB6GSbAD5GRAD6GRADeGRAD3GRADwGRAD",
    "aGQbADqGQAD30GRADyFLeGSFL1oGS2FL3AD1cFX1eGSeDY1nGS2DY3EU1aGS2EUfGSDFsGS2DFGSFLbGS5ADyGS5AD23GRAD",
    "tBD29GQ4BDfGR2BDqAL4GSAL8GS2AL2GS2ALmGSAL7GSALGS3AL4GS2AL9GS2AL2GS2AL4GS8ALGS4AL2GSAL5GS2ALpGS2B",
    "W3GSBW6GS4BW2GS2BWmGSBW7GSBW2GSBW2GSBW2GS2BWGSBW5GS4BW2GS2BW3GS3BWGS7BW4GSBWGS7BWhGSaBU3GSBU9GSB",
    "U3GSBUmGSBU7GSBU2GSBU5GS2BUaGSBU3GSBU3GS2BUGSfBU4GS2BUcGS7BU7GSEE3GSEE8GS2EE2GS2EEmGSEE7GSEE2GSE",
    "E5GS2EE9GS2EE2GS2EE3GS7EE3GS4EE2GSEE5GS2EEiGSaFQ2GSFQ6GS3FQ3GSFQ4GS3FQ2GSFQGSFQ2GS3FQ2GS3FQ3GS3F",
    "QcGS4FQ5GS3FQ3GSFQ4GS2FQGS6FQGSeFQlGS5FUdGSFU3GSFUnGSFUgGS2FU9GSFU3GSFU4GS7FU2GSFU3GSFU2GS2FU4GS",
    "2FUaGS7FU9CQdGSCQ3GSCQnGSCQaGSCQ5GS2CQ9GSCQ3GSCQ4GS7CQ2GS5CQ3GSCQ4GS2CQaGSCQ3GScDMdGSDM3GSDM1fGS",
    "DM3GSDM6GS4DMgGS2DMqGSFD3GSFDiGS3FDoGSFD9GSFDGS2FD7GS3FDGS4FD6GSFDGSFD8GS6FDaGS2FD3GScFY1mGS4GRF",
    "YsGS11CU2GSCUGSCU5GSCUoGSCUGSCUnGS2CU5GSCUGSCU7GSCUaGS2CU4GSwFZ20GSFZ10GS4FZ13GSFZ10GSFZfGSFZ7GR",
    "4FZ2GS11DS4gBN12GSBNGS5BNGS2BN17GRBN4BX74BL21GSBL4GS2BL7GSBLGSBL4GS2BL15GSBL4GS2BLxGSBL4GS2BL7GS",
    "BLGSBL4GS2BLfGSBL1lGSBL4GS2BL1vGS2BLwGS3BLqGS6AX2eGS2AX6GS2AUhsEAtGS3ET23GR3ETbGS7FWmGS9FWBZlGR2",
    "GS9ASkGScFMdGSFM3GSFM2GScCN2mGS2CNaGS6CNaGS6DO2GR2DOGRDOkGS6DO2hGS7DO17GS5AU1yGSaCXvGSCXcGS4CXcG",
    "S4CXGS3CXcFOuGS2FO5GSbFP18GS4FPqGS6FPbGS3FP2CNwARsGS2AR2CT1rGSCTtGS2CTbGS6CTaGS6CTeGS2GQ1aGS2GQc",
    "GSkAH25GSAH1eFI1sAK1gGS8AK4CW1kGS3CWfGS3CW3EB1cBCbGS5BN17GS2BN3FI8GS8GQ3GRGQdGRGQ7GR4GQGR6GQGR3G",
    "Q2GRGS5CV12BT5BCCV1dBT5CV4BT5CVdBCCV1yBTGQ1sCV74BTmGS2BT6GS2BT12GS2BT6GS2BT8GSBTGSBTGSBTGSBTvGS2",
    "BT1hGSBTfGSBTeGS2BT6GSBTjGS2BT3GSBT9GSGRcGQ2GR2fGSGRbCVGS2GRbCVGRfGSCVdGS3GRyGSeGQxGSfGR12BTGR3C",
    "V2GR6CVGRrCVGRhCV15GR3GS4GRiiGSmGRbGSlGRpsAQ74GRhgGS2GR3uBO2oCVwAZ38GS5AZ7BN12GSBNGS5BNGS2FV1kGS",
    "7FV2GSeFVBLnGS9BL7GSBL7GSBL7GSBL7GSBL7GSBL7GSBL7GSBL7GSBCwGR2mGSyBYqGSBY2hGScBY5yGSqGRlBYGRBYGRp",
    "BY9GQ4BX2GR8BY4GR4GSCC2eGS2GQ2GR2CC3GRCK2iGR2CK3GS5AO17GSBX2mGSGRgAOwGR12GS9GRCKgBXvGSGR1sBXvGR2",
    "9CK1bGRCK2gGR4oBY534GR1sBYg74GOwdGS3GO1jGS9DA1cGH8cGSkBC2oAI2gGS8GRyCV2uGR3CV2aGSkCVfFK19GS3GRaG",
    "S6EL1kGS8EW1yGS8EWcGS6BDwCJ1aGRCJER10GSbERBXtGS3CI26GSGRCIaGS4CI2DSvGSAW1jGS9AWeGS2AWaGS2AW4DSwF",
    "S1vGSoFS5DQnGSaBL6GS2BL6GS2BL6GS9BL7GSBL7GSCV17GRCV9BTCV4GR2GS4AX28DQ1aGS2DQaGS6BX8mcGScBXnGS4BX",
    "1dGS6isBYa6GS2BY2yGS12CV7GScAF5GS5CBqGSCB5GSCBGSCB2GSCB2GSCBaADdqGR2AD40GSwADgGQgGRaGS6GQeBC2GRz",
    "GSGRjGSGR4GS4AD5GSAD3rGS2GRGSGRwCVqGR6CVqGRbCKaGRCK19GR2BXvGS3BX6GS2BX6GS2BX6GS2BX3GS3GR7GSGR7GS",
    "aGR5GS2CZcGSCZqGSCZjGSCZ2GSCZfGS2CZeGSyCZ3fGS5GR3GS4GR19GS3GR9BT27GSGRdGS3BTGS1bGR19GQGS3mDBtGS3",
    "AV1dGSfGQGRrGS4CH10GS9CH3BRrGS5EK17GS5GGuGSGGGL10GS4GLeGS16BG28EY1cEGuGS2EGaGS6EF10GS4EF10GS4BJ1",
    "4GS8AB1gGSbABGIbGSGIfGSGI7GSGI2GSGIbGSGIfGSGI7GSGI2GS3GC1gGScCY8nGS9CYmGSaCY8GSoCV6GSCV16GSCV9GS",
    "1xBB6GS2BBGSBB18GSBB2GS3BBGS2BBAEmGSAE9EIwDWvGS8DW9GS1cCAjGSCA2GS5CA5EOsGS3EODCqGS5DCFBqGS12DLwD",
    "KoGS4DKkGS2DK1aCM4GSCM2GS5CM8GSCM3GSCMtGS2CM3GS4CMaGS7CM9GS7EVwDVwGSwDG13GS4DGcGS9AG1iGS3AG7EQmG",
    "S2EQ8EMjGS5EM8ENiGS7EN4GScEN7GS28ED21GS1jCG1fGSdCG1fGS7CG6ES14GS8ESaGS6BM12GS3BMtGS8BM2GS5sADvGS",
    "GN16GSGN3GS2GN2GSgAD6GS8AD9GSxAD6FF14GS8FE16GSmEHqGS12AYsGSkBKnGS9AP26GS4AP10GS9APCS1vGSaCSGS2FG",
    "pGS7FGaGS6AT1hGSATiGS8DD13GS9EZ2oGSFDkGSbCOiGSCO1bGS1qDR7GSDRGSDR4GSDRfGSDRbGS6FC1nGS5FCaGS6BS4G",
    "SBS8GS2BS2GS2BSmGSBS7GSBS2GSBS5GSGQBS9GS2BS2GS2BS3GS2BSGS6BSGS5BS7GS2BS7GS3BS5GSbGFaGSGFGS2GFGSG",
    "F12GSGFaGSGFGS2GFGSGF4GSGFaGSGF2GS8GF2GStDX2kGSDX5GSuGA20GS8GAaGS4mFA1iGS2FA12GSyDN1xGSbDNaGS6DO",
    "dGSjFN1mGS6FNaGS6DSkGSsACrGS2ACfGS4ACnGS55BF1oGS2sGJ2bGScGJBE7GS2BEGS2BE8GSBE2GSBEuGSBE2GS2BEcGS",
    "9BEaGS1yDU8GS2DU1aGS2DUbGSrGP20GS8FH2bGSdAUgEJ1lGS7BDaGS2eEZ8GS2gFJyGSeFJaGS6AN9GSAN19GSANeGSaAN",
    "tGS3DHwGS2DHmGSDHeGS21BQ7GSBQ2GSBQ18GS3BQGSBQ2GSBQ9GS8BQaGS6BP6GSBP2GSBP11GSBP2GSBP6GS7BPaGS6GD1",
    "8GS4GDaGS6uDEpGS7CLhGSCL15GS3CLtGS2dDAGSfFQ1eGSdFQGMpmGS2uGM33GSGM5GSbGM5gGS218BA2rGSdBIuuGSaBI3",
    "2zGS5CDg7GS5a1BV1mGS1c6AIftGS7DPvGSDPaGS4DP2GB27GSGBaGS6AJuGS2AJ6GSaCE1yGSaCEaGSCE7GSCElGS5CEjGS",
    "c0CR1mGS5iDI2jGS5AMpGS2AMpGS18EP23GS4EP1lGS7EPhGS1sFRDZBY2CPGSbBY7GS9FR5c0CPd2GS15CPFRvGS2pFR37G",
    "S6ppCK4GSCK7GSCK2GSCKCC7zCK3GSfCCGStCC3GS2CKGSeCK4GS8DZb0GS1s4BH2zGS5BHdGS3BH9GS7BHaGS2BH4GR4GS3",
    "18GR71GS3GRc4GS6GRnGSfGRhGSfGQ1aGS2GQnGS9GR38GS1oGR6uGSaGR13GS2GR1qGQ3GRhGQ8GR2GQ7GRuGQ4GR1pGSlB",
    "T1yGS3eGRkGScGRkGScGR2fGS9GRpGS3rGR2dGSGR1zGSGR2GS2GRGS2GR2GS2GR4GSGRcGSGRGSGR7GSGR1tGSGR4GS2GR8",
    "GSGR7GSGRsGSGR4GSGR5GSGRGS3GR7GSGR9gGS2GR84GS2GR1eEXi4GSfEX5GSEXfGSuoCVvGS6CV6GS5xBO7GSBOhGS2BO7",
    "GSBO2GSBO5GS5BC1qGSxBCGS34CF19GS3CFeGS2CFaGS4CF2GS8wGEvGShGK1mGS5GKGScwDT16GS5yEC17GS4ECGS5cFTvG",
    "SFTmGS8FT2GS68BL7GSBL4GSBL2GSBLfGSDJ5hGS2DJgGS15AA24GS4AAaGS4AA2GSltGR1wGS24GR1pGS5eAD4GSADrGSAD",
    "2GSADGS2ADGSADaGSAD4GSADGSADGS6ADGS4ADGSADGSADGSAD3GSAD2GSADGS2ADGSADGSADGSADGSADGSAD2GSADGS2AD4",
    "GSAD7GSAD4GSAD4GSADGSADaGSADhGS5AD3GSAD5GSADhGS1gAD2GS7iGR18GS4GR2sGScGRfGS2GRfGSGRfGSGR11GSaGR4",
    "uGS1kGRqCCGR2GSdGR18GS4GR9GS7GR2GSeGR6GS4aGRrdGS3GRhGS3GRdGS3GR62GS6GRcGS4GRGSfGRcGS4GR1kGS8GRaG",
    "S6GR14GS8GRuGS2GRcGS4GR2GSeGR9GS13GR9kGS8GReGS2GRdGS3GRbGS3GR1lGSGRGS4GRgGS2GRcGS4GRaGS7GR43GSGR",
    "2vGSslBYwyoGSwBY3dqGS2BY4geGS2BY5rlGSfBYhaGS1wiBYf2GS15uBY3t7GS5BY6juGSf5vrGRGSuGR2oGS3kGQ6oGS47",
    "bk"]

/-- The characters that several scripts use, or another one than their own. -/
def sharedRuns : String := String.join [
    "53 1 ec 1 a 1 1 3 1 1 9 1 1 1 12 f 1 2 1 1 f 3 7 2 1 2 g 1 2 1 i 1 5 1 4 d 4 2 7h 5 75 1 3m 1 e ",
    "2 2 1 w 1 a b a a 6 1 2r 1 ho 2 h c 3a a 3a a 3a a 6u e 6q a nk a 4x 1 167 3 1z 2 5n 2 1 1 y2 17",
    " 5h 2 1i 1 1 1 fo 1 v 1 a 1 2 1 42 1 2li 1 o 2 a 1 4 1 1 1 bw g 1 3 2 1 1 a 1 d a 4 2 6 1 1 4 4 ",
    "2h 4 3 1 2i 2 43 g w 12 9 1 1c 14 1k 1d f c 1f 1 2g p a 5 2o v mls 1 40 8 88 a 53 1 1 1 1m 1 4g ",
    "1 gha 2 4y 1 a 1 1z 2 7u 5 a 1 19 2 9s 3 4 19 3 9 bk s 1km 1 1la 1 1 1 1j 2 2hf 2 1 1 uz0 4 4ho ",
    "i 63i 2"]

/-- The shared characters that a script uses, by the letters of the script. -/
def sharedWith : List (String × String) := [
  ("AA", "17j 1 w 1 55a 1 2r5 1"),
  ("AB", "lg 1 18 1 18 1"),
  ("AD", "170 1 e 2 2 1 w 1 a b a a 6 1 2r 1 516 1 2r5 1 14vw 2 4y 1 a 1 yq s"),
  ("AF", "lk 1 hs 1"),
  ("AG", "53 1 8zc 2"),
  ("AL", "jg 1 1as 2 h 2 3k a 3q8 1 1 1 2 2 1 1 8 1 8 1 2 1 4 1 2 3 rnd 1"),
  ("AO", "jr 1 1 3 d 1 8x3 3 4 a 1 d a 4 2 1 6 1 5f 1 14jt 2 7u 5"),
  ("AR", "xjj 1"),
  ("AS", "4l1 2"),
  ("AT", "1ye a 18w a"),
  ("AV", "53 1 68y 1 2 1 2qb 1"),
  ("AX", "lc 3 1 1 6 2 m 2 b 2"),
  ("AZ", "53 1 g8 1 3 2 1 1 30 2 8f5 1 1614 s"),
  ("BA", "1erk 2"),
  ("BB", "1erk 3 4 19 3 9"),
  ("BC", "jg 1 1v 3 1 1 1 1 1 1 2 1 5 1 a9 5 50w 1 37u 1 nqj 1"),
  ("BD", "jg 1 1as 2 h c 3ts 13 1 2 s6 1 qpr a 53 1 1 1"),
  ("BF", "1us c vcw a"),
  ("BH", "53 1 gf 2 1 1 o 2 8if 1 26oz 4"),
  ("BJ", "53 1 gd 1"),
  ("BL", "lq 1"),
  ("BM", "170 1 e 1 3 1"),
  ("BN", "53 1 y9 1 29d 1 31a 1 2qe 1"),
  ("BO", "53 1 gb 1 1 1 am 1 2 1 75 1 29d 1 31a 1 2qw 1 nqj 1"),
  ("BP", "53 1 1po 2"),
  ("BQ", "1us 2"),
  ("BR", "53 1 gc 2 2 1 14 1"),
  ("BS", "1u9 2 h 2 hs e 3bw 1 1 2 u 3 3 2 s6 1 1btc 1 1 1 1j 2 2hf 2 1 1"),
  ("BT", "53 1 g8 2 2 1 1 1 1 1 a 1 1a 1 2 1 1a 2 56y 2 ij 1"),
  ("BU", "1u9 2 h 2 ao a v28 a"),
  ("BV", "1ut 1"),
  ("BW", "1u9 2 h 2 74 a v5s a"),
  ("BX", "9hd 3 4 a 1 d g 1 6 1 5f 1 14jt 2 7u 5"),
  ("BY", String.join [
      "53 1 9bs g 1 3 2 1 1 a 1 d a 4 2 1 6 1 4 4 57 1 44 g w 12 9 1 1c 14 1k 1d f c 1f 1 2g p a 5 2o v",
      " mpt 8 h8d 2 7u 5 15ve i 63i 2"]),
  ("BZ", "4l1 2"),
  ("CB", "lj 2"),
  ("CC", "9hd 3 4 a 1 d g 6 1 1 4 2 2j 4 3 1 2i 2 14js 2 7u 5 a 1 19 2"),
  ("CG", "6e2 1 2 1 2qb 1 f 1"),
  ("CI", "xjj 1"),
  ("CJ", "xf2 1"),
  ("CK", "lh 1 t 1 8v1 3 4 a 1 d g 6 1 1 4 2 2j 4 3 1 2i 2 14js 2 7u 5 a 1 19 2"),
  ("CO", "25i a v28 a"),
  ("CQ", "1u9 2 h 2 ow a 34w 1 1 2 6 1 n 1 1 1 ri3 6"),
  ("CS", "1uu a 79d 1 o3i a"),
  ("CV", String.join [
      "53 1 ec 1 a 1 1 3 1 1 9 1 1 1 12 f 1 2 1 1 f 3 7 2 1 2 12 1 5 1 4 d 7p 2 y2 2 1ig 1 2kc 1 fq 1 5",
      "c 1 2li 1 nvs 8 fa 1"]),
  ("CX", "1ut 1"),
  ("CY", "1err 19"),
  ("CZ", "1erk 3 4 19 3 9"),
  ("DA", "jg 1 g 1 8xo 2"),
  ("DB", "6e2 1"),
  ("DC", "53 1 8zd 1"),
  ("DD", "53 1 1po c vcw a"),
  ("DF", "18g 1"),
  ("DG", "18g 1 1fht 1"),
  ("DL", "6e5 1"),
  ("DM", "1u9 2 h 2 3uc 1 n 1 ri5 3"),
  ("DN", "x80 a"),
  ("DO", "4qq 2 1 1 1m1 1 34h 2 5 4"),
  ("DR", "21y a"),
  ("DS", "37k a u78 1"),
  ("DU", "1u9 1 i 2 ow a 35l 1 8 1 7 1 rhx 6"),
  ("DX", "1u9 2 3uq 1 1 2 9 1 6 1 1 1 1 1"),
  ("DY", "170 1 e 1 3 1 1cta 2"),
  ("EC", "1us 2"),
  ("ED", "6e2 1 2qd 1"),
  ("EE", "1u9 2 h 2 3uc 1 n 1"),
  ("EF", "ld 1 2 1 6 1 24 1"),
  ("EH", "18g 1 1fht 1"),
  ("EK", "53 1 g8 1 5 3 a 1 a7 1"),
  ("EL", "4qq 2 1 1 1m1 1 34i 1"),
  ("EN", "18g 1"),
  ("ES", "170 1 e 1 3 1 w 1 43 1"),
  ("ET", "4iz 3"),
  ("EU", "94h 1"),
  ("EY", "53 1"),
  ("EZ", "1u9 1 3ut 1 1 1 2 2 2 1 9 1 2 1 ria 6 2 1"),
  ("FC", "1us 2 vd6 a"),
  ("FD", "1us 2 3v0 1"),
  ("FE", "18g 1"),
  ("FJ", "lc 2 1 1 9 1 2 1 s 1 3 1"),
  ("FK", "1us 2 3k a"),
  ("FL", "lf 2 2 2 1 1 o 3 7 2 1 2 ka 1 e 2 2 1 w 1 a b q 1 4nb 1 1 1"),
  ("FM", "4l1 2"),
  ("FN", "1us 2 vd6 a"),
  ("FO", "lc 2 5 2 3 1 2lv a"),
  ("FQ", "1u9 2 h 2 hs e 3c6 1 ro8 1 ky5 1 1 1 1j 2 2hf 2 1 1"),
  ("FR", "9gw g dr 1"),
  ("FU", "1u9 2 h 2 3u7 2 1 1 1 1 n 1"),
  ("FV", "le 1 1 1 1 4 p 1"),
  ("FW", "4l1 2"),
  ("FX", "170 1 e 2 2 1 1s a 1cw8 1 a 1"),
  ("FY", "jg 1 q 1 17 1 19 1"),
  ("FZ", "9hk 4"),
  ("GA", "1u9 2 h 2 3u7 1 c 1 f 1 ri5 a"),
  ("GC", "ld 1 2 1 2 1 9 1 1 1 22 1"),
  ("GE", "jg 1"),
  ("GF", "2jq a 35u 1 1 1 ri3 6 57 1"),
  ("GN", "170 1 e 1 3 1 1s a"),
  ("GO", "9hd 2 5 a 2 8 67 1 14rp 5")]

def script? (name : String) : Option Ranges := do
  let letters ← scriptLetters.lookup name
  return ofLetterRuns (fun code => String.ofList code = letters) 2 scriptRuns

/-- The characters that a script uses: its own that it does not share, and the shared ones. -/
def scriptExtensions? (name : String) : Option Ranges := do
  let own ← script? name
  let letters ← scriptLetters.lookup name
  let shared := ((sharedWith.lookup letters).map ofRuns).getD []
  return (own.without (ofRuns sharedRuns) ++ shared).joined

end DocumentRepository.Text

import DocumentRepository.Text.Ranges

/-! # General categories

Every code point has one general category. The table is one text: a letter for the category of
a run and the length of the run, which is left out when it is one. -/
namespace DocumentRepository.Text

def categoryLetters : List (String × Char) := [
  ("cc", 'A'),
  ("cf", 'B'),
  ("cn", 'C'),
  ("co", 'D'),
  ("cs", 'E'),
  ("ll", 'F'),
  ("lm", 'G'),
  ("lo", 'H'),
  ("lt", 'I'),
  ("lu", 'J'),
  ("mc", 'K'),
  ("me", 'L'),
  ("mn", 'M'),
  ("nd", 'N'),
  ("nl", 'O'),
  ("no", 'P'),
  ("pc", 'Q'),
  ("pd", 'R'),
  ("pe", 'S'),
  ("pf", 'T'),
  ("pi", 'U'),
  ("po", 'V'),
  ("ps", 'W'),
  ("sc", 'X'),
  ("sk", 'Y'),
  ("sm", 'Z'),
  ("so", '+'),
  ("zl", '-'),
  ("zp", '*'),
  ("zs", '/')]

def categoryRuns : String := String.join [
    "Aw/V3XV3WSVZVRV2NaV2Z3V2JqWVSYQYFqWZSZAx/VX4+VY+HUZB+Y+ZP2YFV2YPHTP3VJnZJ7FoZF8JFJFJFJFJFJFJFJFJ",
    "FJFJFJFJFJFJFJFJFJFJFJFJFJFJFJFJFJFJFJF2JFJFJFJFJFJFJFJF2JFJFJFJFJFJFJFJFJFJFJFJFJFJFJFJFJFJFJFJ",
    "FJFJFJFJ2FJFJF3J2FJFJ2FJ3F2J4FJ2FJ3F3J2FJ2FJFJFJ2FJF2JFJ2FJ3FJFJ2F2HJF3H4JIFJIFJIFJFJFJFJFJFJFJF",
    "JF2JFJFJFJFJFJFJFJFJF2JIFJFJ3FJFJFJFJFJFJFJFJFJFJFJFJFJFJFJFJFJFJFJFJFJFJFJFJFJFJFJFJFJF7J2FJ2F2",
    "JFJ4FJFJFJFJF1xH2FqGiY4GcYeG5Y7GYGYhM34JFJFGYJFC2GF3VJC4Y2JVJ3CJCJ2FJhCJ9FzJF2J3F3JFJFJFJFJFJFJF",
    "JFJFJFJFJF5JFZJFJ2F2J1fF1cJFJFJFJFJFJFJFJFJFJFJFJFJFJFJFJFJF+M5L2JFJFJFJFJFJFJFJFJFJFJFJFJFJFJFJ",
    "FJFJFJFJFJFJFJFJFJFJFJFJ2FJFJFJFJFJFJF2JFJFJFJFJFJFJFJFJFJFJFJFJFJFJFJFJFJFJFJFJFJFJFJFJFJFJFJFJ",
    "FJFJFJFJFJFJFJFJFJFJFJFJFJFJFJFJFJFJFJFCJ12C2GV6F15VRC2+2XCM19RMVM2VM2VMC8HrC4H4V2CbB6Z3V2XV2+2M",
    "bVBV3HwGHaMlNaV4H2MH2rVHM7B+M6G2M2+M4H2NaH3+2HVeCBHMHuMrC2H2hMbHCeNaHxM9G2+V3GC2MX2HmM4GM9GM3GM5",
    "C2VfCHpM3C2VCHbC5HoYH7B2C5M9H15GMoBMwKH1iMKMHK3M8K4MK2HM7HaM2V2NaVGHfMK2CH8C2H2C2HmCH7CHC3H4C2MH",
    "K3M4C2K2C2K2MHC8KC4H2CH3M2C2NaH2X2P6+XHVMC2M2KCH6C4H2C2HmCH7CH2CH2CH2C2MCK3M2C4M2C2M3C3MC7H4CHC7",
    "NaM2H3MVCaM2KCH9CH3CHmCH7CH2CH5C2MHK3M5CM2KCK2MC2HCfH2M2C2NaVXC7HM6CMK2CH8C2H2C2HmCH7CH2CH5C2MHK",
    "MKM4C2K2C2K2MC7M2KC4H2CH3M2C2Na+HP6CaMHCH6C3H3CH4C3H2CHCH2C3H2C3H3C3HcC4K2MK2C3K3CK3MC2HC6KCeNaP",
    "3+6X+C5MK3MH8CH3CHnCHgC2MHM3K4CM3CM4C7M2CH3CH2C2H2M2C2NaC7VP7+HMK2VH8CH3CHnCHaCH5C2MHKMK5CMK2CK2",
    "M2C7K2C5H3CH2M2C2NaCH2KCcM2K2H9CH3CH15M2HK3M4CK3CK3MH+C4H3KP7H3M2C2NaP9+H6CMK2CHiC3HoCH9CHC2H7C3",
    "MC4K3M3CMCK8C6NaC2K2VCcH1cMH2M7C4XH6GM8VNaV2C11H2CHCH5CHoCHCHaMH2M9HC2H5CGCM7CNaC2H4CwH+3Vf+V+3M",
    "2+6NaPa+M+M+MWSWSK2H8CH10C4MeKM5VM2H5MbCM10C+8M+6C+2V5+4V2C11H17K2M4KM6KM2K2M2HNaV6H6K2M2H4M3HK3",
    "H2K7H3M4HdMK2M2K6MHKNaK3M+2J12CJC5JC2F17VGF3H95CH4C2H7CHCH4C2H15CH4C2HxCH4C2H7CHCH4C2HfCH1lCH4C2",
    "H1vC2M3V9PkC3Hg+aC6J2eC2F6C2RHh8+VHh/HqWSC3H23V3O3H8C7HiM3KC9HjM2KV2C9HiM2CcHdCH3CM2CcH1gM2KM7K8",
    "MK2MbV3GV3XHMC2NaC6PaC6V6RV4M3BMNaC6HzGH1hC7H5M2HyMHC5H1yCaHvCM3K4M2K3C4K2MK6M3C4+C3V2NaHuC2H5Cb",
    "H18C4HqC6NaPC3+yHnM2K2MC2V2H1hKMKM7CMKMK2M8K6MaC2MNaC6NaC6V7GV6C2MeLMvC2McCkM4KH1bMKM5KMK5MK2H8C",
    "V2NaV7+aM9+9V3M2KHuKM4K2M2KM3H2NaH18MKM2K3MKM3K2C8V4H10K8M8K2M2C3V5NaC3H3NaHuG6V2F9JFC5J17C2J3V8",
    "C8M3VMdKM7H4MH6MH2KM2HC5F18G1rFdGFyG11M1sJFJFJFJFJFJFJFJFJFJFJFJFJFJFJFJFJFJFJFJFJFJFJFJFJFJFJFJ",
    "FJFJFJFJFJFJFJFJFJFJFJFJFJFJFJFJFJFJFJFJFJFJFJFJFJFJFJFJFJFJFJFJFJFJFJFJFJFJFJFJFJFJFJFJFJFJFJF9",
    "JFJFJFJFJFJFJFJFJFJFJFJFJFJFJFJFJFJFJFJFJFJFJFJFJFJFJFJFJFJFJFJFJFJFJFJFJFJFJFJFJFJFJFJFJFJFJFJF",
    "JF9J8F6C2J6C2F8J8F8J8F6C2J6C2F8CJCJCJCJF8J8FeC2F8I8F8I8F8I8F5CF2J4IYFY3F3CF2J4IY3F4C2F2J4CY3F8J5",
    "Y3C2F3CF2J4IY2C/bB5R6V2UTWU2TWUV8-*B5/V9UTV4Q2V3ZWSVbZVQVa/B5CBaPGC2P6Z3WSGPaZ3WSCGdC3XyCeMdL4ML",
    "3McCf+2J+4J+2FJ3F2J3F+J+2ZJ5+6J+J+J+J4+FJ4FH4F+2F2J2Z5JF4+Z+2F+PgOzJFO4P+2C4Z5+5Z2+4Z+2Z+2Z+7Z+v",
    "Z2+2Z+Z+vZ7g+8WSWS+kZ2+7WS+29Z+uZp+14Z6+20Cm+bClP1o+26Pm+53Z+9Z+1iZ8+33Z+6wWSWSWSWSWSWSWSPu+18Z5",
    "WSZvWSWSWSWSWSZg+74Z3nWSWSWSWSWSWSWSWSWSWSWSZ1rWSWSZwWSZ76+1cZl+2Z6+13C2+3uJ1cF1cJFJ3F2JFJFJFJ4F",
    "JF2JF6G2J3FJFJFJFJFJFJFJFJFJFJFJFJFJFJFJFJFJFJFJFJFJFJFJFJFJFJFJFJFJFJFJFJFJFJFJFJFJFJFJFJFJFJFJ",
    "FJFJFJFJFJFJF2+6JFJFM3JFC5V4PV2F12CFC5FC2H1kC7GVCeMHnC9H7CH7CH7CH7CH7CH7CH7CH7CMwV2UTUTV3UTVUTV9",
    "RV2RVUTV2UTWSWSWSWSV5GVaR2V4RVWVd+2V3WSWSWSWSRCy+qC+2hCc+5yCq+g/V3+GHOWSWSWSWSWS+2WSWSWSWSRWS2+O",
    "9M4K2RG5+2O3GHV+2CH2eC2M2Y2G2HRH2iVG3HC5H17CH2mC+2P4+aHw+12C9+Hg+vCPa+uP8+Pf+wPa+13Pf+8wH534+1sH",
    "g7pGHvrC3+1jC9H14G6V2H7gGV3HgNaH2CkJFJFJFJFJFJFJFJFJFJFJFJFJFJFJFJFJFJFJFJFJFJFJFHML3VMaVGJFJFJF",
    "JFJFJFJFJFJFJFJFJFJFJFG2M2H1yOaM2V6C8YnG9Y2JFJFJFJFJFJFJF3JFJFJFJFJFJFJFJFJFJFJFJFJFJFJFJFJFJFJF",
    "JFJFJFJFJFJFJFJFJFJFJFJFGF8JFJFJ2FJFJFJFJFGY2JFJFHJFJF3JFJFJFJFJFJFJFJFJFJFJ5FJ5FJFJFJFJFJFJFJFJ",
    "4FJFJ2FJFJFJFJFJFJFJFJCkG4JFHG2FH7MH3MH4MHnK2M2K+4MC3P6+2X+C6H1gV4C8K2H1eKgM2C8V2NaC6MiH6V3HVH2M",
    "NaHsM8V2HnMbK2CbVHtC3M3KH1bMK2M4K2M2K3VdCGNaC4V2H5MGH9NaH5CH15M6K2M2K2M2C9H3MH8MKC2NaC2V4HgGH6+3",
    "HKMKH1eMHM3H2M2H5M2HMHCoH2GV2HbKM2K2V2HG2KMCaH6C2H6C2H6C9H7CH7CF17YG4F9GY2C4F28HzK2MK2MK2VKMC2Na",
    "C6H8mcCcHnC4H1dC4E1kwD4xsHa6C2H2yC12F7CcF5C5HMHaZHdCH5CHCH2CH2CH30Yh+gHa3SW+gH1s+2H1i+8CwHcX+3Mg",
    "V7WSVC6MgVR2Q2WSWSWSWSWSWSWSWSV2WSV4Q3V3CV4RWSWSWSV3ZRZ3CVXV2C4H5CH3rC2BCV3XV3WSVZVRV2NaV2Z3V2Jq",
    "WVSYQYFqWZSZWSVWSV2HaGH19G2HvC3H6C2H6C2H6C2H3C3X2ZY+X2C+Z4+2CaB3+2C2HcCHqCHjCH2CHfC2HeCyH3fC5V3C",
    "4P19C3+9O1hP4+hP2+3C+dC3+C1b+19MC3mHtC3H1dCfMPrC4HwP4C9HkOH8OC5H12M5C5HuCVH10C4H8VO5C16J14F14H26",
    "C2NaC6J10C4F10C4H14C8H1gCbVJbCJfCJ7CJ2CFbCFfCF7CF2C3H1gCcH8nC9HmCaH8CoG6CG16CG9C1xH6C2HCH18CH2C3",
    "HC2HnCVP8Hn+2P7HvC8P9C1cHjCH2C5P5HmP6C3VHqC5VHqC12H1kC4P2H2PgC2P1aHM3CM2C5M4H4CH3CHtC2M3C4MP9C7V",
    "9C7HtP2VHtP3CwH8+HsM2C4P5V7C9H1iC3V7HmC2P8HjC5P8HiC7V4CcP7C28H21C1jJ1fCdF1fC7P6H10M4C8NaC6NaH4GH",
    "JmC3M5RGFmC8Z2C5sPvCH16CM2RC2H2CgH3GH2C8V+8CxM6HtPaHC8HmMbP4V5CmHiM4V4C12HlP7CkHnC9KMKH1hMfV7C4P",
    "kNaMH2M2HC9M3KH19K3M4K2M2V2BV4MCaBC2HpC7NaC6M3H10M5KM8CNaV4HK2HC8HzMV2HC9M2KH1cK3M9K2H4V4M4VKMNa",
    "HVHV3CPkCbHiCHpK3M3K2MKM2V6MH2MC1qH7CHCH4CHfCHaVC6H1bMK3M8C5NaC6M2K2CH8C2H2C2HmCH7CH2CH5CM2HK2MK",
    "4C2K2C2K3C2HC6KC5H5K2C2M7C3M5CbHaCHC2HCH12CHK3M6CKC2KCK4CK2MKMHMHV2CV2C8M2CtH1hK3M8K2M3KMH4V5NaV",
    "2CVMH3CuH1cK3M6KMK4M2KM2H2VHC8NaC4mH1bK3M4C2K4M2KM2VnH4M2CyH1cK3M8K2MKM2V3HCbNaC6VdCjH17MKMK2M6K",
    "MHVC6NaC6NkCsHrC2MKMK2M4KM5C4NaP2V3+H7C55H18K3M9KM2VC2sJwFwNaP9CcH8C2HC2H8CH2CHoK6CK2C2M2KMHKHKM",
    "V3C9NaC1yH8C2H13K3M4C2M2K4MHVHKCrHMaH14M6KHM4V8MC8HM6K2M3H1aMdKM2V3HV5CdH21C7VaC2eMKM3KMKC2gHxVC",
    "eNaC6H9CH11KM7CM6KMHV5CaNaPjC3V2HuC2MmCKM7KM2KM2C21H7CH2CH12M6C3MCM2CM7HMC8NaC6H6CH2CHwK5CM2CK2M",
    "KMHC7NaC6H15GH2C4NaC6uHjM2K2V2C7M2HKHdCHyK2M5C3K2MKMVdNaMC2dHCfPl+8X4+hCdVHpmC2uO33CV5CbH5gC218H",
    "2pV2CdHtsBgMH6MfCaH32zC5Hg7C5a1HuMcK3M3NaC1c6HftC7HvCNaC4V2H27CNaC6HuC2M5VCaH1cM7V5+4G4V+CaNaCP7",
    "CHlC5HjCc0G3H14G2V3NaC5iJwFwPnV4C5JpC2FpC18H23C4MHK1jC7M4GdC1sG2VGMCbK2G2O3C9H5p2C15HwC2pH37C6pp",
    "G4CG7CG2CH83CfHCtH3C2HCeH4C8Hb0C1s4H2zC5HdC3H9C7HaC2+M2VB4C318+6oNa+3C3+c4C6+nCf+gZCfM1aC2MnC9+3",
    "8C1o+6uCa+13C2+1oK2M3+3K6B8M8+2M7+uM4+1pCl+1uM3+C3ePkCcPkCc+2fC9PpC3rJqFqJqF7CFiJqFqJCJ2C2JC2J2C",
    "2J4CJ8F4CFCF7CFbJqFqJ2CJ4C2J8CJ7CFqJ2CJ4CJ5CJC3J7CFqJqFqJqFqJqFqJqFqJqFqJqFsC2JpZFpZF6JpZFpZF6Jp",
    "ZFpZF6JpZFpZF6JpZFpZF6JFC2N1e+e8M1j+4M1e+8M+eM+2V5CfM5CMfCuoFaHFkC6F6C5xM7CMhC2M7CM2CM5C5G1qCxMC",
    "34H19C3M7G7C2NaC4H+C8wHuMChH18M4NaC5XCcwHrGM4NaC5yHuM2HNaC4VC5cHvCH3MH2MH7M2H5MC8HGC68H7CH4CH2CH",
    "fCH5hC2P9M7C15JyFyM7GC4NaC4V2CltP1n+P3XP4C24P19+PfC5eH4CHrCH2CHC2HCHaCH4CHCHC6HC4HCHCHCH3CH2CHC2",
    "HCHCHCHCHCH2CHC2H4CH7CH4CH4CHCHaCHhC5H3CH5CHhC1gZ2C7i+18C4+2sCc+fC2+fC+fC+11CaPd+4hC1k+tCd+18C4+",
    "9C7+2Ce+6C4a+6zY5+k9C3+hC3+dC3+62C6+cC4+Cf+cC4+1kC8+aC6+14C8+uC2+cC4+2CeZ9C13+9kC8+eC2+dC3+bC3+1",
    "lC+C4+gC2+cC4+aC7+43C+2kNa+CslHwyoCwH3dqC2H4geC2H5rlCfHhaC1wiHf2C15uH3t7C5H6juCf5vrBCuB2oC3kM6oC",
    "1e6oD1ekeC2D1ekeC2"]

/-- The names of categories and of their unions, in lower case without separators. Surrogates are
no characters, and their category has no name. -/
def categoryNames : List (String × List String) := [
  ("c", ["cc", "cf", "cn", "co", "cs"]),
  ("other", ["cc", "cf", "cn", "co", "cs"]),
  ("cc", ["cc"]),
  ("control", ["cc"]),
  ("cntrl", ["cc"]),
  ("cf", ["cf"]),
  ("format", ["cf"]),
  ("cn", ["cn"]),
  ("unassigned", ["cn"]),
  ("co", ["co"]),
  ("privateuse", ["co"]),
  ("l", ["ll", "lm", "lo", "lt", "lu"]),
  ("letter", ["ll", "lm", "lo", "lt", "lu"]),
  ("lc", ["ll", "lt", "lu"]),
  ("casedletter", ["ll", "lt", "lu"]),
  ("ll", ["ll"]),
  ("lowercaseletter", ["ll"]),
  ("lm", ["lm"]),
  ("modifierletter", ["lm"]),
  ("lo", ["lo"]),
  ("otherletter", ["lo"]),
  ("lt", ["lt"]),
  ("titlecaseletter", ["lt"]),
  ("lu", ["lu"]),
  ("uppercaseletter", ["lu"]),
  ("m", ["mc", "me", "mn"]),
  ("mark", ["mc", "me", "mn"]),
  ("combiningmark", ["mc", "me", "mn"]),
  ("mc", ["mc"]),
  ("spacingmark", ["mc"]),
  ("me", ["me"]),
  ("enclosingmark", ["me"]),
  ("mn", ["mn"]),
  ("nonspacingmark", ["mn"]),
  ("n", ["nd", "nl", "no"]),
  ("number", ["nd", "nl", "no"]),
  ("nd", ["nd"]),
  ("decimalnumber", ["nd"]),
  ("digit", ["nd"]),
  ("nl", ["nl"]),
  ("letternumber", ["nl"]),
  ("no", ["no"]),
  ("othernumber", ["no"]),
  ("p", ["pc", "pd", "pe", "pf", "pi", "po", "ps"]),
  ("punctuation", ["pc", "pd", "pe", "pf", "pi", "po", "ps"]),
  ("punct", ["pc", "pd", "pe", "pf", "pi", "po", "ps"]),
  ("pc", ["pc"]),
  ("connectorpunctuation", ["pc"]),
  ("pd", ["pd"]),
  ("dashpunctuation", ["pd"]),
  ("pe", ["pe"]),
  ("closepunctuation", ["pe"]),
  ("pf", ["pf"]),
  ("finalpunctuation", ["pf"]),
  ("pi", ["pi"]),
  ("initialpunctuation", ["pi"]),
  ("po", ["po"]),
  ("otherpunctuation", ["po"]),
  ("ps", ["ps"]),
  ("openpunctuation", ["ps"]),
  ("s", ["sc", "sk", "sm", "so"]),
  ("symbol", ["sc", "sk", "sm", "so"]),
  ("sc", ["sc"]),
  ("currencysymbol", ["sc"]),
  ("sk", ["sk"]),
  ("modifiersymbol", ["sk"]),
  ("sm", ["sm"]),
  ("mathsymbol", ["sm"]),
  ("so", ["so"]),
  ("othersymbol", ["so"]),
  ("z", ["zl", "zp", "zs"]),
  ("separator", ["zl", "zp", "zs"]),
  ("zl", ["zl"]),
  ("lineseparator", ["zl"]),
  ("zp", ["zp"]),
  ("paragraphseparator", ["zp"]),
  ("zs", ["zs"]),
  ("spaceseparator", ["zs"])]

def categoryRanges (letters : List Char) : Ranges :=
  ofLetterRuns (fun name => name.all letters.contains) 1 categoryRuns

def category? (name : String) : Option Ranges := do
  let members ← categoryNames.lookup name
  return categoryRanges (members.filterMap fun m => categoryLetters.lookup m)

end DocumentRepository.Text

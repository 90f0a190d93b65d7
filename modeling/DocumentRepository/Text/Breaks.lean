import DocumentRepository.Text.Ranges

/-! # Breaks

The classes by which a text breaks into characters as readers see them, words and sentences.
Each table is one text: a letter for the class of a run, and a hyphen for none, and the length of
the run, which is left out when it is one. -/
namespace DocumentRepository.Text

structure BreakTable where
  /-- The names of the classes, in lower case without separators, and their letters. -/
  letters : List (String × Char)
  runs : String

def graphemeBreaks : BreakTable where
  letters := [
    ("cn", 'A'),
    ("control", 'A'),
    ("cr", 'B'),
    ("ex", 'C'),
    ("extend", 'C'),
    ("l", 'D'),
    ("lf", 'E'),
    ("lv", 'F'),
    ("lvt", 'G'),
    ("pp", 'H'),
    ("prepend", 'H'),
    ("ri", 'I'),
    ("regionalindicator", 'I'),
    ("sm", 'J'),
    ("spacingmark", 'J'),
    ("t", 'K'),
    ("v", 'L'),
    ("zwj", 'M')]
  runs := String.join [
    "AaEA2BAi-2nAx-dA-giC34-7nC7-7bC19-C-C2-C2-C-1kH6-aCb-A-1aCl-gC-2tC7H-C6-2C2-C4-xH-C-uCr-2jCb-1mC",
    "9-9C-oC4-C9-C3-C5-17C3-1gH2-5C9-16CoHCwJ-1iCJC-J3C8J4CJ2-C7-aC2-tCJ2-1kC-CJ2C4-2J2-2J2C-9C-aC2-q",
    "C-2C2J-1kC-J3C2-4C2-2C3-3C-uC2-3C-bC2J-1kC-J3C5-C2J-J2C-kC2-mC6-CJ2-1kC-C2JC4-2J2-2J2C-7C3-aC2-u",
    "C-1nCJCJ2-3J3-J3C-9C-14CJ3C-1jC-C3J4-C3-C4-7C2-bC2-tCJ2-1kC-JC2JCJ2-C3-C4-7C2-bC2-fJ-cC2J2-1jC2-",
    "CJ2C4-J3-J3CH-8C-aC2-tCJ2-1yC-4CJ2C3-C-J7C-iJ2-1pC-JC7-cC8-2qC-JC9-bC7-21C2-rC-C-C-4J2-1dCeJC5-C",
    "2-5Cb-C10-9C-2uC4JC6-C2J2C2-nJ2C2-4C3-gC4-dC-JC2-6C-fC-2qD2oL20K2g-9pC3-qaC4-sC3-tC2-uC2-1sC2JC7",
    "J8CJ2Cb-9C-19C3AC-39C2-yC-3aC3J4C2J3-4J2CJ6C3-63C2J2C-1lJCJC7-C-C-2C8J6Ca-2C-1cC1a-2Cc-kC4J-1bCa",
    "J4C3-12C9-cC2J-uJC4J2C6-1kCJC2J3CJC5-1cJ8C8J2C2-48C3-CdJC7-4C-6C-2JC2-5iC1s-ejACMA2-oA7-1dAg-2oC",
    "x-2daC3-3xC-2oCw-feC6-2xC2-n9wC4-Ca-wC2-28C2-7kC-3C-4C-nJ2C2J-4C-2bJ2-1eJgC2-qCi-dC-12C8-pCbJC-c",
    "Dt-3C3J-1bCJ2C4J2C2J2C-10C-1vC6J2C2J2C2-cC-8CJ-1aC-1fC-C3-2C2-5C2-C-15JC2J2-5JC-6kJ2CJ2CJ2-JC-iF",
    "GrFGrFGrFGrFGrFGrFGrFGrFGrFGrFGrFGrFGrFGrFGrFGrFGrFGrFGrFGrFGrFGrFGrFGrFGrFGrFGrFGrFGrFGrFGrFGrF",
    "GrFGrFGrFGrFGrFGrFGrFGrFGrFGrFGrFGrFGrFGrFGrFGrFGrFGrFGrFGrFGrFGrFGrFGrFGrFGrFGrFGrFGrFGrFGrFGrF",
    "GrFGrFGrFGrFGrFGrFGrFGrFGrFGrFGrFGrFGrFGrFGrFGrFGrFGrFGrFGrFGrFGrFGrFGrFGrFGrFGrFGrFGrFGrFGrFGrF",
    "GrFGrFGrFGrFGrFGrFGrFGrFGrFGrFGrFGrFGrFGrFGrFGrFGrFGrFGrFGrFGrFGrFGrFGrFGrFGrFGrFGrFGrFGrFGrFGrF",
    "GrFGrFGrFGrFGrFGrFGrFGrFGrFGrFGrFGrFGrFGrFGrFGrFGrFGrFGrFGrFGrFGrFGrFGrFGrFGrFGrFGrFGrFGrFGrFGrF",
    "GrFGrFGrFGrFGrFGrFGrFGrFGrFGrFGrFGrFGrFGrFGrFGrFGrFGrFGrFGrFGrFGrFGrFGrFGrFGrFGrFGrFGrFGrFGrFGrF",
    "GrFGrFGrFGrFGrFGrFGrFGrFGrFGrFGrFGrFGrFGrFGrFGrFGrFGrFGrFGrFGrFGrFGrFGrFGrFGrFGrFGrFGrFGrFGrFGrF",
    "GrFGrFGrFGrFGrFGrFGrFGrFGrFGrFGrFGrFGrFGrFGrFGrFGrFGrFGrFGrFGrFGrFGrFGrFGrFGrFGrFGrFGrFGrFGrFGrF",
    "GrFGrFGrFGrFGrFGrFGrFGrFGrFGrFGrFGrFGrFGrFGrFGrFGrFGrFGrFGrFGrFGrFGrFGrFGrFGrFGrFGrFGrFGrFGrFGrF",
    "GrFGrFGrFGrFGrFGrFGrFGrFGrFGrFGrFGrFGrFGrFGrFGrFGrFGrFGrFGrFGrFGrFGrFGrFGrFGrFGrFGrFGrFGrFGrFGrF",
    "GrFGrFGrFGrFGrFGrFGrFGrFGrFGrFGrFGrFGrFGrFGrFGrFGrFGrFGrFGrFGrFGrFGrFGrFGrFGrFGrFGrFGrFGrFGrFGrF",
    "GrFGrFGrFGrFGrFGrFGrFGrFGrFGrFGrFGrFGrFGrFGrFGrFGrFGrFGrFGrFGrFGrFGrFGrFGrFGrFGrFGrFGrFGrFGrFGrF",
    "GrFGrFGrFGrFGrFGrFGrFGrFGrFGrFGrFGrFGrFGrFGr-cLn-4K1d-6xuC-khCg-gCg-5rA-4eC2-28Ac-e9C-6aC-45C5-1",
    "aeC3-C2-5C4-14C3-4C-4lC2-fxC4-1tC5-8tC2-25C6-1yCb-1dC4-3eJCJ-1hCf-15C-2C2-aC3J-19J3C4J2C2-2H-4C-",
    "aH-1eC3-10C5JC8-gJ2-18C-cC2J-1cJ3C9JC-H2-5C4-JC-2kJ3C3J2C4-6C-2C-4dCJ3C8-lC2J2-1jC2-CJCJ4-2J2-2J",
    "2C-9C-aJ2-2C7-3C5-1vCJ2C6-C-2C-C3J-J2C3HC-eC2-2aJ3C8J2C3JC-nC-29CJ2C6JCJ2CJC2JC2-6jCJ2C4-2J4C2JC",
    "2-rC2-2aJ3C8J2CJC2-2yCJCJ2C8-2tCJC-2C4JC5-74J3C9JC2-6tCJ5-J2-2C4HJHJC-3xJ3C4-2C2J4C-3J-sCa-14C6J",
    "HC4-8C-9C6J2C3-14H6CdJC2-5iCJC3JCJ-5jJC7-C6JC-2aCm-JC7JC2JC2-3eC6-3C-C2-C7HC-1uJ5-C2-J2CJC-9nC2J",
    "2-9C2HJ-1cJ2C5-3J2C3-nC-445AgC-6Cf-8ugCcJ3C3-1xcC5-1nC7-fgL-3L4-dgC-J1j-7C4-29C-bC2-f57C2-A4-3mk",
    "C1a-2Cn-f2C5-3C6A8C8-2C7-uC4-44C3-1izC1j-4C1e-8C-eC-mC5-Cf-11sC7-Ch-2C7-C2-C5-2sC-4gC7-afC-1pC4-",
    "e4C4-72C2-6rC-2C-7C2-5C-d6C7-31C7-1p7Iq-e3C5-gx6oAwC2oA3kC6oA2s0-44jk"]

def wordBreaks : BreakTable where
  letters := [
    ("le", 'A'),
    ("aletter", 'A'),
    ("cr", 'B'),
    ("dq", 'C'),
    ("doublequote", 'C'),
    ("extend", 'D'),
    ("ex", 'E'),
    ("extendnumlet", 'E'),
    ("fo", 'F'),
    ("format", 'F'),
    ("hl", 'G'),
    ("hebrewletter", 'G'),
    ("ka", 'H'),
    ("katakana", 'H'),
    ("lf", 'I'),
    ("ml", 'J'),
    ("midletter", 'J'),
    ("mn", 'K'),
    ("midnum", 'K'),
    ("mb", 'L'),
    ("midnumlet", 'L'),
    ("nl", 'M'),
    ("newline", 'M'),
    ("nu", 'N'),
    ("numeric", 'N'),
    ("ri", 'O'),
    ("regionalindicator", 'O'),
    ("sq", 'P'),
    ("singlequote", 'P'),
    ("wsegspace", 'Q'),
    ("zwj", 'R')]
  runs := String.join [
    "-aIM2B-iQ-C-4P-4K-L-NaJK-5Aq-4E-Aq-aM-10A-2F-7A-J-2A-5An-Av-Adc-6AyD34A5-A2-2A4KA-6AJA3-A-Ak-A2b",
    "-A3v-D7A4m-A12-2A4-AJA15KA-6D19-D-D2-D2-D-8Gr-4G4AJ-bF6-6K2-2Db-F-3A17DlNa-NK-A2DA2r-AD7F-D6A2D2",
    "-D4A2NaA3-2A-fFADAuDr-2A2hDbA-eNaAxD9A2-2K-A-2D-2AmD4AD9AD3AD5-iApD3-4Ab-5Ao-A7F2-5D9A16DoFDxA1i",
    "D3ADiAD7AaD2-2Na-AgD3-A8-2A2-2Am-A7-A-3A4-2DAD7-2D2-2D3A-8D-4A2-A3D2-2NaA2-aA-D-2D3-A6-4A2-2Am-A",
    "7-A2-A2-A2-2D-D5-4D2-2D3-3D-7A4-A-7NaD2A3D-bD3-A9-A3-Am-A7-A2-A5-2DAD8-D3-D3-2A-fA2D2-2Na-9AD6-D",
    "3-A8-2A2-2Am-A7-A2-A5-2DAD7-2D2-2D3-7D3-4A2-A3D2-2Na-A-gDA-A6-3A3-A4-3A2-A-A2-3A2-3A3-3Ac-4D5-3D",
    "3-D4-2A-6D-eNa-gD5A8-A3-An-Ag-2DAD7-D3-D4-7D2-A3-A2-2A2D2-2Na-gAD3-A8-A3-An-Aa-A5-2DAD7-D3-D4-7D",
    "2-5A3-A2D2-2Na-A2D-cD4A9-A3-A15D2AD7-D3-D4A-5A3D-7A3D2-2Na-aA6-D3-Ai-3Ao-A9-A-2A7-3D-4D6-D-D8-6N",
    "a-2D2-1pD-2D7-cD8-Na-2fD-2D9-bD7-Na-12A-nD2-6Na-bD-D-D-4D2A8-A10-4Dk-D2A5Db-D10-9D-2sDk-Na-cD4-4",
    "D3-D3-2D7-3D4-dDc-DNaD4-2A12-A-5A-2A17-A99-A4-2A7-A-A4-2A15-A4-2Ax-A4-2A7-A-A4-2Af-A1l-A4-2A1v-2",
    "D3-wAg-gA2e-2A6-3Ah8-2AhQAq-5A23-3Ab-7AiD4-9AjD3-bAiD2-cAd-A3-D2-1sDw-9D-2Na-xD3FDNa-6A2h-7A5D2A",
    "yDA-5A1y-aAv-Dc-4Dc-aNa-3kNa-12AnD5-1lDa-Dt-2DNa-6Na-mD1a-2Dc-kD5A1bDhA8-3Na-hD9-cD3AuDdA2NaA18D",
    "e-cA10Dk-8Na-3A3NaA10-2Ab-5A17-2A3-gD3-DlA4DA6DA2D3A-5A5cD1sA7q-2A6-2A12-2A6-2A8-A-A-A-Av-2A1h-A",
    "7-A-3A3-A7-3A4-2A6-4Ad-5A3-A7-3Q7-Q3-DRF2-8L2-aL-2JM2F5E-fE2-3K-fE-aQF5-Fa-A-dA-gAd-1fDx-hA-4A-2",
    "Aa-A-3A5-6A-A-A-A4-Ab-2A4-5A5-4A-hA15-mlA1g-1eeA6d-6A4D3A2-cA12-A-5A-2A1k-7A-fDAn-9A7-A7-A7-A7-A",
    "7-A7-A7-A7-Dw-1bA-cwQ-4A-10D6-H5-5A2-2kD2H2-3H2j-H4-5A17-A2m-hAw-1cHg-5sH1b-H2g-lgoAwd-1vA1a-2A7",
    "h-3AgNaA2-kA1bD4-Da-AvD2A28D2-mA5x-kAhDA3DA4DAnD5-4D-jA1g-cD2A1eDi-aNa-6DiA6-3A-A2DNaAsD8-2AnDd-",
    "cAt-3D4A1bDe-eANa-bD-aNa-6A15De-9A3DA8D2-2Na-xD3-1eD-D3-2D2-5D2-D-uAbD5-2A3D2-aA6-2A6-2A6-9A7-A7",
    "-A1m-6A37D8-D2-2Na-6A8mc-cAn-4A1d-6x0A7-cA5-5GDGa-Gd-G5-G-G2-G2-GaA2q-xAa3-iA1s-2A1i-14Ac-4DgK-2",
    "JK-bDg-3E2-oE3K-L-KJ-qA5-A3r-2F-7L-4K-L-NaJK-5Aq-4E-Aq-bH1kD2Av-3A6-2A6-2A6-2A3-sF3-4Ac-Aq-Aj-A2",
    "-Af-2Ae-yA3f-1xA1h-3sD-3mAt-3A1d-fD-vAw-dAu-5A12D5-5Au-2A10-4A8-A5-16A4e-2Na-6A10-4A10-4A14-8A1g",
    "-cAb-Af-A7-A2-Ab-Af-A7-A2-3A1g-cA8n-9Am-aA8-oA6-A16-A9-1xA6-2A-A18-A2-3A-2An-aAn-9Av-1tAj-A2-aAm",
    "-aAq-6Aq-12A1k-6A2-1sAD3-D2-5D4A4-A3-At-2D3-4D-wAt-3At-zA8-AsD2-pA1i-aAm-aAj-dAi-32A21-1jA1f-dA1",
    "f-dA10D4-8Na-6NaAs-3D5-An-6yA16-D2-3A2-gA6-1eD6At-aA-8AmDb-vAiD4-16Al-rAn-9D3A1hDf-vNaDA2D2A-9D4",
    "A19Db-2F-4D-aF-2Ap-7Na-6D3A10De-Na-4AD2A-8AzD-2A-9D3A1cDeA4-4D4-D2NaA-A-zAi-ApDc-6DA2D-1qA7-A-A4",
    "-Af-Aa-7A1bDc-5Na-6D4-A8-2A2-2Am-A7-A2-A5-D2AD7-2D2-2D3-2A-6D-5A5D2-2D7-3D5-bAa-A-2A-A12-AD9-D-2",
    "D-D4-D5ADA-dD2-tA1hDiA4-5Na-4DA3-uA1cDkA2-A-8Na-4mA1bD7-2D9-nA4D2-yA1cDh-3A-bNa-12A17DdA-7Na-6Nk",
    "-1lDf-4Na-5iA18Df-2tA1sNa-lA8-2A-2A8-A2-AoD6-D2-2D4ADAD2-cNa-1yA8-2A13D7-2D7A-AD-rADaA14D7AD4-8D",
    "-8ADbA1aDg-3A-iA21-2vD8-2gAx-fNa-6A9-A11D8-D8A-fNa-oAu-2Dm-De-21A7-A2-A12D6-3D-D2-D7AD-8Na-6A6-A",
    "2-AwD5-D2-D5A-7Na-6A18-4Na-6uAjD4-9D2ADAd-AyD7-3D5-dNaD-2dA-27Apm-2uA33-hA5g-218A2p-fAtsFgDA6Df-",
    "aA32z-5Ag7-5a1AuDiNa-1c6Aft-7Av-Na-6A27-Na-6Au-2D5-bA1cD7-9A4-cNa-9Al-5Aj-c0A19-3Na-5iA1s-wAp-2A",
    "p-18A23-4DAD1j-7D4Ad-1sA2-AD-bD2-cn2H4-H7-H2-H-7zH3-1eH-eH4-23cA2z-5Ad-3A9-7Aa-3D2-F4-37wNa-eeD1",
    "a-2Dn-f2D5-3D6F8D8-2D7-uD4-44D3-cbA2d-A1z-A2-2A-2A2-2A4-Ac-A-A7-A1t-A4-2A8-A7-As-A4-A5-A-3A7-A9g",
    "-2Ap-Ap-Av-Ap-Av-Ap-Av-Ap-Av-Ap-A8-2N1e-e8D1j-4D1e-8D-eD-mD5-Df-uoAv-6A6-5xD7-Dh-2D7-D2-D5-5A1q-",
    "xD-34A19-3D7A7-2Na-4A-8xAuD-hA18D4Na-d2AsD4Na-5yAuD2ANa-5hAv-A3DA2DA7D2A5D-8A2-68A7-A4-A2-Af-A5h",
    "-bD7-15A1wD7A-4Na-x2A4-Ar-A2-A-2A-Aa-A4-A-A-6A-4A-A-A-A3-A2-A-2A-A-A-A-A-A2-A-2A4-A7-A4-A4-A-Aa-",
    "Ah-5A3-A5-Ah-hgAq-6Aq-6Aq-2kOq-e3D5-1kgNa-gvlzF-uD2o-3kD6o-47bk"]

def sentenceBreaks : BreakTable where
  letters := [
    ("at", 'A'),
    ("aterm", 'A'),
    ("cl", 'B'),
    ("close", 'B'),
    ("cr", 'C'),
    ("ex", 'D'),
    ("extend", 'D'),
    ("fo", 'E'),
    ("format", 'E'),
    ("lf", 'F'),
    ("lo", 'G'),
    ("lower", 'G'),
    ("nu", 'H'),
    ("numeric", 'H'),
    ("le", 'I'),
    ("oletter", 'I'),
    ("sc", 'J'),
    ("scontinue", 'J'),
    ("st", 'K'),
    ("sterm", 'K'),
    ("se", 'L'),
    ("sep", 'L'),
    ("sp", 'M'),
    ("up", 'N'),
    ("upper", 'N')]
  runs := String.join [
    "-9MFM2C-iMKB-4B3-2J2A-HaJ2-3K-NqB-B-3GqB-B-7L-qM-9GB-E-7G-4GB-4Nn-N7Go-G8NGNGNGNGNGNGNGNGNGNGNGN",
    "GNGNGNGNGNGNGNGNGNGNGNGNGNGNGNGNG2NGNGNGNGNGNGNGNG2NGNGNGNGNGNGNGNGNGNGNGNGNGNGNGNGNGNGNGNGNGNGN",
    "GN2GNGNG3N2GNGN2GN3G2N4GN2GN3G3N2GN2GNGNGN2GNG2NGN2GN3GNGN2G2ING3I4N2GN2GN2GNGNGNGNGNGNGNGNG2NGN",
    "GNGNGNGNGNGNGNG2N2GNGN3GNGNGNGNGNGNGNGNGNGNGNGNGNGNGNGNGNGNGNGNGNGNGNGNGNGNGNGNGNG7N2GN2G2NGN4GN",
    "GNGNGNG1xI2GzI7G2-4Ic-eG5-7I-I-hD34NGNGI-NG-2G4JN-6N-N3-N-N2GNh-N9GzNG2N3G3NGNGNGNGNGNGNGNGNGNGN",
    "GNG5NG-NGN2G2N1fG1cNGNGNGNGNGNGNGNGNGNGNGNGNGNGNGNGNG-D7NGNGNGNGNGNGNGNGNGNGNGNGNGNGNGNGNGNGNGNG",
    "NGNGNGNGNGNGNGN2GNGNGNGNGNGNG2NGNGNGNGNGNGNGNGNGNGNGNGNGNGNGNGNGNGNGNGNGNGNGNGNGNGNGNGNGNGNGNGNG",
    "NGNGNGNGNGNGNGNGNGNGNGNGNGNGNG-N12-2I-3J-2G15K-7D19-D-D2-D2-D-8Ir-4I5-cE6-6J2-2Db-EK3I17DlHa-H2-",
    "I2DI2rKID7E-D6I2D2-D4I2HaI3-2IK3-cEIDIuDr-2I2hDbI-eHaIxD9I2-2JKI-2D-2ImD4ID9ID3ID5-9K-K-3K2-IpD3",
    "-4Ib-5Io-I7E2-5D9I16DoEDxI1iD3IDiID7IaD2K2Ha-IgD3-I8-2I2-2Im-I7-I-3I4-2DID7-2D2-2D3I-8D-4I2-I3D2",
    "-2HaI2-aI-D-2D3-I6-4I2-2Im-I7-I2-I2-I2-2D-D5-4D2-2D3-3D-7I4-I-7HaD2I3D-bD3-I9-I3-Im-I7-I2-I5-2DI",
    "D8-D3-D3-2I-fI2D2-2Ha-9ID6-D3-I8-2I2-2Im-I7-I2-I5-2DID7-2D2-2D3-7D3-4I2-I3D2-2Ha-I-gDI-I6-3I3-I4",
    "-3I2-I-I2-3I2-3I3-3Ic-4D5-3D3-D4-2I-6D-eHa-gD5I8-I3-In-Ig-2DID7-D3-D4-7D2-I3-I2-2I2D2-2Ha-gID3-I",
    "8-I3-In-Ia-I5-2DID7-D3-D4-7D2-5I3-I2D2-2Ha-I2D-cD4I9-I3-I15D2ID7-D3-D4I-5I3D-7I3D2-2Ha-aI6-D3-Ii",
    "-3Io-I9-I-2I7-3D-4D6-D-D8-6Ha-2D2-dI1cDI2D7-5I7D8-Ha-13I2-I-I5-Io-I-IaDI2D9I-2I5-I-D7-Ha-2I4-wI-",
    "nD2-6Ha-bD-D-DB4D2I8-I10-4Dk-D2I5Db-D10-9D-1lI17DkIHaK2-4I6D4I4D3ID3I2D7I3D4IdDcIDHaD4-2N12-N-5N",
    "-2I17-GI98-I4-2I7-I-I4-2I15-I4-2Ix-I4-2I7-I-I4-2If-I1l-I4-2I1v-2D3-2K-4K2-nIg-gN2e-2G6-3Ih8-KIhM",
    "IqB2-3I23-3Ib-7IiD4-9IjD3K2-9IiD2-cId-I3-D2-cI1gDwK2-I-4ID-2Ha-oJK-4JK-D3EDHa-6I2h-7I5D2IyDI-5I1",
    "y-aIv-Dc-4Dc-8K2HaIu-2I5-bI18-4Iq-6Ha-12InD5-4I1hDa-Dt-2DHa-6Ha-dIK4-4D1a-2Dc-kD5I1bDhI8-K2HaK2-",
    "2K2-bD9-9K3D3IuDdI2HaI18De-cI10Dk-3K2-3Ha-3I3HaI10K2G9NG-5I17-2I3-gD3-DlI4DI6DI2D3I-5G5cD1sNGNGN",
    "GNGNGNGNGNGNGNGNGNGNGNGNGNGNGNGNGNGNGNGNGNGNGNGNGNGNGNGNGNGNGNGNGNGNGNGNGNGNGNGNGNGNGNGNGNGNGNGN",
    "GNGNGNGNGNGNGNGNGNGNGNGNGNGNGNGNGNGNGNGNGNGNGNGNG9NGNGNGNGNGNGNGNGNGNGNGNGNGNGNGNGNGNGNGNGNGNGNG",
    "NGNGNGNGNGNGNGNGNGNGNGNGNGNGNGNGNGNGNGNGNGNGNGNGNGNG9N8G6-2N6-2G8N8G8N8G6-2N6-2G8-N-N-N-NG8N8Ge-",
    "2G8N8G8N8G8N8G5-G2N5-G-3G3-G2N5-3G4-2G2N4-4G8N5-5G3-G2N5-3MbED2E2-3J2-3B8-4A-3L2E5M-9B2-K2-7B2K3",
    "-lME5-Ea-G-bB2G-dB2-Gd-1fDx-hN-4N-2GN3G2N3G-N-3N5-6N-N-N-N4-GN4GI4G-2G2N2-5NG4-4G-hNgGgI3NGI4-an",
    "B4-tB2-azNqGq-hdB6-7Be-27B2-vBa-b7Bm-1rB4-wB2-eaN1cG1cNGN3G2NGNGNGN4GNG2NG8N3GNGNGNGNGNGNGNGNGNG",
    "NGNGNGNGNGNGNGNGNGNGNGNGNGNGNGNGNGNGNGNGNGNGNGNGNGNGNGNGNGNGNGNGNGNGNGNGNGNGNGNG2-6NGNGD3NG-5K3-",
    "4G12-G-5G-2I1k-7I-fDIn-9I7-I7-I7-I7-I7-I7-I7-I7-DwBe-eB2-2Ba-4KI-cK-5B-gK2B8-bnMJK-2I3Ba-2B8-B3-",
    "I9D6-I5-2I5-4I2e-2D2-2I3-I2i-I4-5I17-I2m-hIw-1cIg-e8I534-1sIh3h-1vI1a-KI7h-K2IgHaI2-kNGNGNGNGNGN",
    "GNGNGNGNGNGNGNGNGNGNGNGNGNGNGNGNGNGID4-Da-INGNGNGNGNGNGNGNGNGNGNGNGNGNG3D2I28D2-K-3K-vI9-2NGNGNG",
    "NGNGNGNG3NGNGNGNGNGNGNGNGNGNGNGNGNGNGNGNGNGNGNGNGNGNGNGNGNGNGNGNGNGNGNGaNGNGN2GNGNGNGNGI-2NGNGIN",
    "GNG3NGNGNGNGNGNGNGNGNGNGN5GN5GNGNGNGNGNGNGNGN4GNGN2GNGNGNGNGNGNGNGN-kG4NGIG3I7DI3DI4DInD5-4D-jI1",
    "g-2K2-8D2I1eDi-8K2Ha-6DiI6-3I-I2DHaIsD8-KInDd-cIt-3D4I1bDe-7K2-5IHa-6I5DIaHaI5-I15De-9I3DI8D2-2H",
    "a-3K3In-3ID3I1eDID3I2D2I5D2IDI-oI3-2IbD5K2I3D2-aI6-2I6-2I6-9I7-I7-G17-Ge-6G28IzD8KD2-2Ha-6I8mc-c",
    "In-4I1d-6isIa6-2I2y-12G7-cG5-5IDIa-Id-I5-I-I2-I2-I30-xIa3B2-gI1s-2I1i-14Ic-4DgJ2KJ2K2B2-7Dg-J2-2",
    "Bg-2B2-7J2A-J2K2JB6-4J-cI5-I3r-2E-K-6B2-2J2A-HaJ2-3K-NqB-B-3GqB-B-B2KB2J-I1kD2Iv-3I6-2I6-2I6-2I3",
    "-sE3-4Ic-Iq-Ij-I2-If-2Ie-yI3f-1xI1h-3sD-3mIt-3I1d-fD-vIw-dIu-5I12D5-5Iu-2I10-4I8-I5-16N14G14I26-",
    "2Ha-6N10-4G10-4I14-8I1g-cNb-Nf-N7-N2-Gb-Gf-G7-G2-3I1g-cI8n-9Im-aI8-oGI2G3-G16-G9-1xI6-2I-I18-I2-",
    "3I-2In-aIn-9Iv-1tIj-I2-aIm-aIq-6Iq-12I1k-6I2-1sID3-D2-5D4I4-I3-It-2D3-4D-mK2-8It-3It-zI8-IsD2-pI",
    "1i-aIm-aIj-dIi-32I21-1jN1f-dG1f-dI10D4-8Ha-6HaI6Nm-3D5-IGm-6yI16-D2-3I2-gI6-1eD6It-aI-8ImDb-4K5-",
    "mIiD4K4-12Il-rIn-9D3I1hDfK2-tHaDI2D2I-9D4I19Db-2EK4D-aE-2Ip-7Ha-6D3I10De-Ha-K3ID2I-8IzD-2I-9D3I1",
    "cDeI4K2-2D4KD2HaI-I-K2-wIi-IpDcK2-K2-DI2D-1qI7-I-I4-If-IaK-6I1bDc-5Ha-6D4-I8-2I2-2Im-I7-I2-I5-D2",
    "ID7-2D2-2D3-2I-6D-5I5D2-2D7-3D5-bIa-I-2I-I12-ID9-D-2D-D4-D5IDIK2-bD2-tI1hDiI4K2-3Ha-4DI3-uI1cDkI",
    "2-I-8Ha-4mI1bD7-2D9-K2-5KfI4D2-yI1cDhK2-I-bHa-12I17DdI-7Ha-6Hk-sIr-2Df-4Ha-2K3-I7-55I18Df-2tNwGw",
    "Ha-lI8-2I-2I8-I2-IoD6-D2-2D4IDID2K-K-9Ha-1yI8-2I13D7-2D7I-ID-rIDaI14D7ID4-3K2-3D-8IDbI1aDg-K2I-i",
    "I21-2vD8-2gIx-fHa-6I9-I11D8-D8IK2-dHa-oIu-2Dm-De-21I7-I2-I12D6-3D-D2-D7ID-8Ha-6I6-I2-IwD5-D2-D5I",
    "-7Ha-6I18-4Ha-6uIjD4K2-7D2IDId-IyD7-3D5K2-bHaD-2dI-27Ipm-2uI33-hI5g-218I2p-fItsEgDI6Df-aI32z-5Ig",
    "7-5a1IuDiHa-1c6Ift-7Iv-Ha-4K2I27-Ha-6Iu-2D5K-aI1cD7K2-7I4K-bHa-9Il-5Ij-c0I19-K2Ha-5iNwGw-oK-7Np-",
    "2Gp-18I23-4DID1j-7D4Id-1sI2-ID-bD2I5-9I5p2-15Iw-2pI37-6ppI4-I7-I2-I83-fI-tI3-2I-eI4-8Ib0-1s4I2z-",
    "5Id-3I9-7Ia-3D2KE4-37wHa-eeD1a-2Dn-f2D5-3D6E8D8-2D7-uD4-44D3-cbNqGqNqG7-GiNqGqN-N2-2N-2N2-2N4-N8",
    "G4-G-G7-GbNqGqN2-N4-2N8-N7-GqN2-N4-N5-N-3N7-GqNqGqNqGqNqGqNqGqNqGqNqGs-2Np-Gp-G6Np-Gp-G6Np-Gp-G6",
    "Np-Gp-G6Np-Gp-G6NG-2H1e-e8D1j-4D1e-8D-eD-3K-iD5-Df-uoGaIGk-6G6-5xD7-Dh-2D7-D2-D5-5G1q-xD-34I19-3",
    "D7I7-2Ha-4I-8xIuD-hI18D4Ha-d2IsD4Ha-5yIuD2IHa-5hIv-I3DI2DI7D2I5D-8I2-68I7-I4-I2-If-I5h-bD7-15NyG",
    "yD7I-4Ha-x2I4-Ir-I2-I-2I-Ia-I4-I-I-6I-4I-I-I-I3-I2-I-2I-I-I-I-I-I2-I-2I4-I7-I4-I4-I-Ia-Ih-5I3-I5",
    "-Ih-hgNq-6Nq-6Nq-z0B3-12vHa-smIwyo-wI3dq-2I4ge-2I5rl-fIha-1wiIf2-15uI3t7-5I6ju-f5vrE-uD2o-3kD6o-",
    "47bk"]

def BreakTable.class? (table : BreakTable) (name : String) : Option Ranges := do
  let letter ← table.letters.lookup name
  return ofLetterRuns (· = [letter]) 1 table.runs

end DocumentRepository.Text

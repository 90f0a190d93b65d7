import DocumentRepository.Text.Ranges

/-! # Ages of characters

The version of the standard in which each code point was assigned. The table is one text: a
mark for the version of a run, and a hyphen for none, and the length of the run, which is left
out when it is one. -/
namespace DocumentRepository.Text

def ageMarks : List (String × Char) := [
  ("1.1", '?'),
  ("2.0", '@'),
  ("2.1", 'A'),
  ("3.0", 'B'),
  ("3.1", 'C'),
  ("3.2", 'D'),
  ("4.0", 'E'),
  ("4.1", 'F'),
  ("5.0", 'G'),
  ("5.1", 'H'),
  ("5.2", 'I'),
  ("6.0", 'J'),
  ("6.1", 'K'),
  ("6.2", 'L'),
  ("6.3", 'M'),
  ("7.0", 'N'),
  ("8.0", 'O'),
  ("9.0", 'P'),
  ("10.0", 'Q'),
  ("11.0", 'R'),
  ("12.0", 'S'),
  ("12.1", 'T'),
  ("13.0", 'U'),
  ("14.0", 'V'),
  ("15.0", 'W'),
  ("15.1", 'X'),
  ("16.0", 'Y'),
  ("17.0", 'Z')]

def ageRuns : String := String.join [
    "?dyB4?uB8DEBiE3FbGe?2hB5E2?1bB?aB5Eh?1yB9DE8F5E3?2BDdH4?2H2-2?G3?N-4?7-?-?k-?18H?7BD2?B?B?B?B?iC",
    "2DE5F4B?cB?1uB?cB?15HB2D2B4?1hD2?2D2?2D2G?sB2?8F2?2G6DgG4HgI2J2N8-?12-2?7R?13R?B-2N2K-@hF@d?aG?9",
    "@F3-8?r-4R?5-bE4KNH5F?E9H5?MVF?J?qH5?jB3E3F6J?eD2?20B2?5B?fB?uE2?aB5EBe-BuE3Br-2E3FuHiB1dD-eG1n-",
    "2R3I1a-2If-Js-2J-Qb-5VvZV2-5YV8KNKbN6O2VP8UaVbRPfOKrNI?3E?1hJ2?iIJ?5IJ2?pH2J5NI2G2FG2N?3-?8-2?2-",
    "2?m-?7-?-3?4-2?E?7-2?2-2?3F-8?-4?2-?5-2?lIQ2R-2E?E-?6-4?2-2?m-?7-?2-?2-?2-2?-?5-4?2-2?3-3H-7?4-?",
    "-7?fHR-a?3-?7E?-?3-?m-?7-?2-?5-2?a-?3-?3-2?-f?E3-2?aKE-7OQ6-?3-?8-2?2-2?m-?7-?2-E?4-2?8H-2?2-2?3",
    "-7U?2-4?2-?3H2-2?bEJ6-a?2-?6-3?3-?4-3?2-?-?2-3?2-3?3-3?8F?3-4?5-3?3-?4-2H-6?-eF?cE8-5N?3R?8-?3-?",
    "n-?aN?5-2VH?7-?3-?4-7?2-H2O-ZV-2?2H2-2?a-7SH8PN?2R?8-?3-?n-?a-?5-2E2?7-?3-?4-7?2-5ZV?-?2G2-2?a-G",
    "2W-cQN?2U?8-?3-?nJ?gJQ2H?6H-?3-?4JP-4P3?P7O?2H2-2?aH6P3H7-UB2-Bi-3Bo-B9-B-2B7-3B-4B6-B-B8-6Na-2B",
    "3-c?1m-4?t-11?2-?-S?2S?-S?S6?4S?7S?3-?-?S2?2S?dS?3-2?5-?-?6W-?a-2?2K2-w@20-@xBH2-4@rJ4@6B@-@lB3@",
    "7B@B3-Bf-HBF2H3I4J2-11ByHB5HB2HB7H3B4H6BqH1sI4H2?12-K-5K-2?13D2F2?FK3?2iI5?1wI5?2aI6B7FB1rFB-B4-",
    "2B7-B-B4-2B13FB-B4-2BvFB-B4-2B7-B-B4-2B7FB7-BnFBvFB-B4-2B7FB13FBj-2J2F2Bs-3Fq-6B2dO-2O6-2IBhiI9B",
    "t-3B29N8-7DdVD7V-9VDn-9Dk-cDd-D3-D2-cB2lE-2Ba-6Ea-6BfVBa-6B2gR-7B16H-5I1y-aEtN2-Ec-4Ec-4E-3E16-2",
    "E5-bF16I2-4Fq-6FaI-3F2EwFs-2F2I1r-It-2Ib-6Ia-6Ie-2NfU2VeZf-2Zc-kG24V-Y2G19V2YH17K3HcK6J1g-8J4H1k",
    "-3Hf-3H1fP9Y2-5R17-2R3K8-8IzK4QN2S-5E30F2gG7HsNfQ4VPJIG2?4b@H4?2iH6?m-2?6-2?12-2?6-2?8-?-?-?-?v-",
    "2?1h-?f-?e-2?6-?j-2?3-?9-?1bB?nDB6D5E2F2DF7D5H-M4?7D-2?r-F5J8-3?b@AB3D2F4I3JLN3OQVZ-e?iB2D7FG4H-",
    "f?1lB2EFDfFG2HI3?1cBGH4IO2-4?2jB9Dc?6qDe?B?3dBDBuD1gE2FbGcIJbN7P4Q?11B2Y3-m?b-l?3vDkE?46Da?28B8D",
    "8?kE2D2FB?2eB2DcF2DaE8FbHI2E2FgGHaI3H4IaJIjJIJ4IoN?4J?4J2?sJ?zJ?J?4J3?I?7J2?7De?vJ3?oJ?eJF7G4KHK",
    "J2DsH4DgB74De8EeF6G7H5G4H15N3H5I5Nq-2NwZUNyR3NcSN8QRpO4RfSF1bVF1bVGdH3IH3G4H6I2F2zI7K2-5F19-K-5K",
    "-2F1iK2-7FJ-eJFn-9F7-F7-F7-F7-F7-F7-F7-F7-HwFoH4F2HjIKaN7P2Q5R5SU3Vb-yBq-B2h-cB5y-qBcX4?1kB3D3B?",
    "-?2cD2-2?6D2?2mD-5?14HQR-?2m-?gBoJ3U5FgHkY2-9XDg?tE2-?10IcEDf?sE2F?1eDf?cE4?1bT?3bE4?2rE2?vEB52u",
    "UaE1s?g4mFmH8I8KO9QlR5UdV3Bwd-3BiD2BgDBcDB3DB-9I1cH8c-kHwJ2HiK8HsN6OKI2g-8FnG4H5G2H2zJ2OJ2K2NcJa",
    "KN3PRN2O6R2S6V2S5U4Y3Z2V2ZVZV5Y3-kZV3U2NK2JH5F18U-3Ia-6G1k-8H1xP-8Hc-6IsO2R2H2c-bHIt-3I26-Ib-4I2",
    "Nv-H1j-9He-2Ha-2H4IsN4I1v-oI5Kn-aJ6-2J6-2J6-9J7-J7-N1cO4N2S2U4-4O28I1a-2Ia-6@8mc-cIn-4I1d-4@1kw?",
    "566K2D1nI3-2F2y-12?7-c?5-5B?p-?5-?-?2-?2-?30JgVZg?a5Vg?1sZ2?1iZ7VCw?cDEV2DgFa-6?4H3N7O2?lD2E2?a-",
    "?j-?4-4?3D?-?3r-2?-?2mD2?2m-3?6-2?6-2?6-2?3-3?7-?7-aB3A?3Ec-Eq-Ej-E2-Ef-2Ee-yE3f-5E3-4E19-3E9F23",
    "N2P2-HcU-3N-1bH1a-3mHt-3H1d-fNs-4CvNC4-9Q3Cr-5N17-5Eu-EF10-4Fe-16C12E2C12E28-2Ea-6P10-4P10-4N14-",
    "8N1g-bNVb-Vf-V7-V2-Vb-Vf-V7-V2-3Y1g-cN8n-9Nm-aN8-oV6-V16-V9-1xE6-2E-E18-E2-3E-2EIm-I9N1r-8N9-1cO",
    "j-O2-5O5GqI2-3GHq-5HZq-12K1k-4O2K2Og-2O1aF4-F2-5F8-F3-FrR2-2F3-4F9R-7F9-7IwNw-wN13-4Nc-9I1i-3It-",
    "2Ir-5I8Ni-7N4-cN7-28I21-1jO1f-dO1f-7O6R14-8Ra-6Y12-3Yt-8Y2-5sIv-U16-U3-2U2-gY3Z3-8Z9-xZ2YW3R14-8",
    "R16-mVq-12Us-kSn-9J26-4JuV6-9NI1uV-aR-2Kp-7Ka-6K1h-KeR3U-8N13-9K21O4NU2KaNO5-Nk-bNi-N17PW3-1qO7-",
    "O-O4-Of-Ob-6N1n-5Na-6ON3-N8-2N2-2Nm-N7-N2-N5-RN9-2N2-2N3-2O-6N-5N7-2N7-3N5-bYa-Y-2Y-Y12-Ya-Y-2Y-",
    "Y4-Ya-Y2-8Y2-tP2iUP-PRSU2-uN20-8Na-4mN1i-2NiOk-yN1x-bNa-6Pd-jK1kSV-6Ka-6Yk-sOqR-2Of-4OgV7-55R1o-",
    "2sN2b-cNU7-2U-2U8-U2-Uu-U2-2Uc-9Ua-1yS8-2S1a-2Sb-rQ20-8Q1gS2QnRQ5-dVgN1l-7Wa-2eZ8-2gYy-eYa-6P9-P",
    "19-Pe-aPt-3Pw-2Pm-Pe-21Q7-Q2-Q18-3Q-Q2-Q9-8Qa-6R6-R2-R11-R2-R6-7Ra-6Z18-4Za-6uRp-7Wh-W15-3WsY-2d",
    "U-fS1e-dSGofN16O-2uG2rNc-G4N-bO5g-218V2r-dItrWS9Wt-aY32z-5Og7-5a1Y1m-1c6Jft-7Nv-Na-4N2V27-Va-6Nu",
    "-2N6-aN1y-aNa-N7-Nl-5Nj-c0Y1m-5iR2j-5Zp-2Zp-18K1xS6-4SK1bS9-7Kh-1sPQS2U-bU2Z5-9P4q5R5S6Z8PkzUdf-",
    "15YU9Zm-2pZ37-6ppV4-V7-V2-J2Q7xV4-fW-tS3-2W-eS4-8Qb0-1s4N2z-5Nd-3N9-7Na-2N8-318Y6yZ3-3Yc4-6Zn-fZ",
    "h-fV1a-2Vn-9V38-1oC6u-aC13-2HC50ObV2-lF1y-3eWk-cRk-cE2f-9GiR7-3rC2d-C1z-C2-2C-2C2-2C4-Cc-C-C4EC2",
    "-C1t-C4-2C8-C7-Cs-C4-C5-C-3C7-C9eF2-2C82G2-2C1eOi4-fO5-Of-uoVv-6W6-5xP7-Ph-2P7-P2-P5-5W1q-xW-34S",
    "19-3Se-2Sa-4S2-8wVv-hS1m-5S-cwW16-5yY17-4Y-5cZv-Zm-8Z2-68V7-V4-V2-Vf-N5h-2Ng-15P23S-4Pa-4P2-ltR1",
    "w-24S1p-5eK4-Kr-K2-K-2K-Ka-K4-K-K-6K-4K-K-K-K3-K2-K-2K-K-K-K-K-K2-K-2K4-K7-K4-K4-K-Ka-Kh-5K3-K5-",
    "Kh-1gK2-7iH18-4H2s-cJf-2JeN-Jf-JfNm-aIbN2U3IvRJIJbIJIJ2IJ3IJ3I5J8IJ7IJaK2SU3J9IJI2J2IJaI4J2IJaPi",
    "U-1kJqIJ2-dIyJ9P-4I9-7J2-eQ6-4aJxNcO3J6NJ1yNO2JkNcJ11NJ5N4O5NcJhN7O8J1rNJNJ52NJ4N2OJ1qN2K4N7O5Jo",
    "NiPN15PN2eJ5KJgKJ3KJKJKJKJ3KJ6K2J4KJK2J4KJcN2O2JbN1cJ1yNaOP2Q2SU2Z-3WV3Nd-3N4P3Q2RSU2-3J38W3Z4W5",
    "N2dR4W-6Sc-4V-fNc-4N1k-8Na-6N14-8Nu-2U2Ya-4Y2-eZ9-13QcUS3O9P6QP8Q8PQ2PcSPcQR3PfQdR5SUR4U2VRSR4O5",
    "PdQ6RbU2S6U3S2RaS6OR2S8UVS3QnRpS2cZ4-8Re-2S4UW3S3V2-3S3U4W2YZ-3ZYS6UjV4W3U7V4W3YWU3V3Y-Z-4ZW2U7V",
    "3W2Y-2YV8WYZ-4ZV7W2-7U43-U1jY11UaZ-sj@2CwyfU7V2-wI379V4WZ6J66-2O4g2Zc-2Q5rl-fXha-1wiCf2-15s@2U3t",
    "7-5W38gZ3be-1478@2-1eke@2-1eke@2-1eke@2-1eke@2-1eke@2-1eke@2-1eke@2-1eke@2-1eke@2-1eke@2-C-uC2o-",
    "3kE6o-1e6m@2t4y"]

/-- The mark of a version that is written "6.0" or "v60". -/
def ageMark? (name : String) : Option Char :=
  (ageMarks.find? fun (version, _) =>
    name = version || name = "v" ++ String.ofList (version.toList.filter (· != '.'))).map (·.2)

/-- The characters that a version of the standard held, those of the versions before it
included. -/
def age? (name : String) : Option Ranges := do
  let newest ← ageMark? name
  return ofLetterRuns (fun mark => mark.all fun c => c != '-' && c ≤ newest) 1 ageRuns

end DocumentRepository.Text

import Warrant.Unicode.Runs

/-! The general category of every code point (Unicode 16). -/

namespace Warrant.Unicode

/-- General categories under their two-letter names; `cn` is for code points not assigned. -/
inductive Category where
  | cn | lu | ll | lt | lm | lo | mn | mc | me | nd | nl | no | pc | pd | ps | pe | pi | pf | po
  | sm | sc | sk | so | zs | zl | zp | cc | cf | cs | co
  deriving Repr, DecidableEq

namespace Category

/-- The categories in the order of their classes in `runs`. -/
def all : List Category :=
  [cn, lu, ll, lt, lm, lo, mn, mc, me, nd, nl, no, pc, pd, ps, pe, pi, pf, po, sm, sc, sk, so, zs,
   zl, zp, cc, cf, cs, co]

def runs : Runs := .ofLines
    ["a32X1S3U1S3O1P1S1T1S1N1S2J10S2T3S2B26O1S1P1V1M1V1C26O1T1P1T1a33X1S1U4W1S1V1W1F1Q1T1b1W1V1",
     "W1T1L2V1C1S2V1L1F1R1L3S1B23T1B7C24T1C8B1C1B1C1B1C1B1C1B1C1B1C1B1C1B1C1B1C1B1C1B1C1B1C1B1C",
     "1B1C1B1C1B1C1B1C1B1C1B1C1B1C1B1C1B1C1B1C1B1C1B1C1B1C1B1C1B1C2B1C1B1C1B1C1B1C1B1C1B1C1B1C1",
     "B1C2B1C1B1C1B1C1B1C1B1C1B1C1B1C1B1C1B1C1B1C1B1C1B1C1B1C1B1C1B1C1B1C1B1C1B1C1B1C1B1C1B1C1B",
     "1C1B1C1B2C1B1C1B1C3B2C1B1C1B2C1B3C2B4C1B2C1B3C3B2C1B2C1B1C1B1C1B2C1B1C2B1C1B2C1B3C1B1C1B2",
     "C2F1B1C3F4B1D1C1B1D1C1B1D1C1B1C1B1C1B1C1B1C1B1C1B1C1B1C1B1C2B1C1B1C1B1C1B1C1B1C1B1C1B1C1B",
     "1C1B1C2B1D1C1B1C1B3C1B1C1B1C1B1C1B1C1B1C1B1C1B1C1B1C1B1C1B1C1B1C1B1C1B1C1B1C1B1C1B1C1B1C1",
     "B1C1B1C1B1C1B1C1B1C1B1C1B1C1B1C1B1C1B1C1B1C1B1C7B2C1B2C2B1C1B4C1B1C1B1C1B1C1B1C69F2C26E18",
     "V4E12V14E5V7E1V1E1V17G112B1C1B1C1E1V1B1C1A2E1C3S1B1A4V2B1S1B3A1B1A1B2C1B17A1B9C35B1C2B3C3",
     "B1C1B1C1B1C1B1C1B1C1B1C1B1C1B1C1B1C1B1C1B1C1B1C5B1C1T1B1C1B2C2B51C48B1C1B1C1B1C1B1C1B1C1B",
     "1C1B1C1B1C1B1C1B1C1B1C1B1C1B1C1B1C1B1C1B1C1B1C1W1G5I2B1C1B1C1B1C1B1C1B1C1B1C1B1C1B1C1B1C1",
     "B1C1B1C1B1C1B1C1B1C1B1C1B1C1B1C1B1C1B1C1B1C1B1C1B1C1B1C1B1C1B1C1B1C1B1C1B2C1B1C1B1C1B1C1B",
     "1C1B1C1B1C2B1C1B1C1B1C1B1C1B1C1B1C1B1C1B1C1B1C1B1C1B1C1B1C1B1C1B1C1B1C1B1C1B1C1B1C1B1C1B1",
     "C1B1C1B1C1B1C1B1C1B1C1B1C1B1C1B1C1B1C1B1C1B1C1B1C1B1C1B1C1B1C1B1C1B1C1B1C1B1C1B1C1B1C1B1C",
     "1B1C1B1C1B1C1B1C1B1C1B1C1A1B38A2E1S6C41S1N1A2W2U1A1G45N1G1S1G2S1G2S1G1A8F27A4F4S2A11b6T3S",
     "2U1S2W2G11S1b1S3F32E1F10G21J10S4F2G1F99S1F1G7b1W1G6E2G2W1G4F2J10F3W2F1S14A1b1F1G1F30G27A2",
     "F89G11F1A14J10F33G9E2W1S3E1A2G1U2F22G4E1G9E1G3E1G5A2S15A1F25G3A2S1A1F11A5F24V1F6A1b2A5G9F",
     "41E1G24b1G32H1F54G1H1G1F1H3G8H4G1H2F1G7F10G2S2J10S1E1F15G1H2A1F8A2F2A2F22A1F7A1F1A3F4A2G1",
     "F1H3G4A2H2A2H2G1F1A8H1A4F2A1F3G2A2J10F2U2L6W1U1F1S1G1A2G2H1A1F6A4F2A2F22A1F7A1F2A1F2A1F2A",
     "2G1A1H3G2A4G2A2G3A3G1A7F4A1F1A7J10G2F3G1S1A10G2H1A1F9A1F3A1F22A1F7A1F2A1F5A2G1F1H3G5A1G2H",
     "1A1H2G1A2F1A15F2G2A2J10S1U1A7F1G6A1G1H2A1F8A2F2A2F22A1F7A1F2A1F5A2G1F1H1G1H1G4A2H2A2H2G1A",
     "7G2H1A4F2A1F3G2A2J10W1F1L6A10G1F1A1F6A3F3A1F4A3F2A1F1A1F2A3F2A3F3A3F12A4H2G1H2A3H3A1H3G1A",
     "2F1A6H1A14J10L3W6U1W1A5G1H3G1F8A1F3A1F23A1F16A2G1F1G3H4A1G3A1G4A7G2A1F3A2F1A2F2G2A2J10A7S",
     "1L7W1F1G1H2S1F8A1F3A1F23A1F10A1F5A2G1F1H1G1H5A1G1H2A1H2G2A7H2A6F2A1F2G2A2J10A1F2H1A12G2H2",
     "F9A1F3A1F41G2F1H3G4A1H3A1H3G1F1W1A4F3H1L7F3G2A2J10L9W1F6A1G1H2A1F18A3F24A1F9A1F1A2F7A3G1A",
     "4H3G3A1G1A1H8A6J10A2H2S1A12F48G1F2G7A4U1F6E1G8S1J10S2A37F2A1F1A1F5A1F24A1F1A1F10G1F2G9F1A",
     "2F5A1E1A1G7A1J10A2F4A32F1W3S15W1S1W3G2W6J10L10W1G1W1G1W1G1O1P1O1P1H2F8A1F36A4G14H1G5S1G2F",
     "5G11A1G36A1W8G1W6A1W2S5W4S2A37F43H2G4H1G6H1G2H2G2F1J10S6F6H2G2F4G3F1H3F2H7F3G4F13G1H2G2H6",
     "G1F1H1J10H3G1W2B38A1B1A5B1A2C43S1E1C3F329A1F4A2F7A1F1A1F4A2F41A1F4A2F33A1F4A2F7A1F1A1F4A2",
     "F15A1F57A1F4A2F67A2G3S9L20A3F16W10A6B86A2C6A2N1F620W1S1F17X1F26O1P1A3F75S3K3F8A7F18G3H1A9",
     "F19G2H1S2A9F18G2A12F13A1F3A1G2A12F52G2H1G7H8G1H2G11S3E1S3U1F1G1A2J10A6L10A6S6N1S4G3b1G1J1",
     "0A6F35E1F53A7F5G2F34G1F1A5F70A10F31A1G3H4G2H3A4H2G1H6G3A4W1A3S2J10F30A2F5A11F44A4F26A6J10",
     "L1A3W34F23G2H2G1A2S2F53H1G1H1G7A1G1H1G1H2G8H6G10A2G1J10A6J10A6S7E1S6A2G14I1G16A49G4H1F47G",
     "1H1G5H1G1H5G1H2F8A1S2J10S7W10G9W9S3G2H1F30H1G4H2G2H1G3F2J10F44G1H1G2H3G1H1G3H2A8S4F36H8G8",
     "H2G2A3S5J10A3F3J10F30E6S2C9B1C1A5B43A2B3S8A8G3S1G13H1G7F4G1F6G1F2H1G2F1A5C44E63C13E1C34E3",
     "7G64B1C1B1C1B1C1B1C1B1C1B1C1B1C1B1C1B1C1B1C1B1C1B1C1B1C1B1C1B1C1B1C1B1C1B1C1B1C1B1C1B1C1B",
     "1C1B1C1B1C1B1C1B1C1B1C1B1C1B1C1B1C1B1C1B1C1B1C1B1C1B1C1B1C1B1C1B1C1B1C1B1C1B1C1B1C1B1C1B1",
     "C1B1C1B1C1B1C1B1C1B1C1B1C1B1C1B1C1B1C1B1C1B1C1B1C1B1C1B1C1B1C1B1C1B1C1B1C1B1C1B1C1B1C1B1C",
     "1B1C1B1C1B1C1B1C1B1C1B1C1B1C1B1C1B1C9B1C1B1C1B1C1B1C1B1C1B1C1B1C1B1C1B1C1B1C1B1C1B1C1B1C1",
     "B1C1B1C1B1C1B1C1B1C1B1C1B1C1B1C1B1C1B1C1B1C1B1C1B1C1B1C1B1C1B1C1B1C1B1C1B1C1B1C1B1C1B1C1B",
     "1C1B1C1B1C1B1C1B1C1B1C1B1C1B1C1B1C1B1C1B1C1B1C1B1C1B1C9B8C6A2B6A2C8B8C8B8C6A2B6A2C8A1B1A1",
     "B1A1B1A1B1C8B8C14A2C8D8C8D8C8D8C5A1C2B4D1V1C1V3C3A1C2B4D1V3C4A2C2B4A1V3C8B5V3A2C3A1C2B4D1",
     "V2A1X11b5N6S2Q1R1O1Q2R1O1Q1S8Y1Z1b5X1S9Q1R1S4M2S3T1O1P1S11T1S1M1S10X1b5A1b10L1E1A2L6T3O1P",
     "1E1L10T3O1P1A1E13A3U33A15G13I4G1I3G12A15W2B1W4B1W2C1B3C2B3C1W1B1W2T1B5W6B1W1B1W1B1W1B4W1C",
     "1B4C1F4C1W2C2B2T5B1C4W1T1W2C1W1L16K35B1C1K4L1W2A4T5W5T2W4T1W2T1W2T1W7T1W31T2W2T1W1T1W31T2",
     "68W8O1P1O1P1W20T2W7O1P1W81T1W30T25W40T6W72A22W11A21L60W78L22W183T1W9T1W54T8W111T1W248O1P1",
     "O1P1O1P1O1P1O1P1O1P1O1P1L30W44T5O1P1T31O1P1O1P1O1P1O1P1O1P1T16W256T131O1P1O1P1O1P1O1P1O1P",
     "1O1P1O1P1O1P1O1P1O1P1O1P1T63O1P1O1P1T32O1P1T258W48T21W2T6W39A2W32A1W105B48C48B1C1B3C2B1C1",
     "B1C1B1C1B4C1B1C2B1C6E2B3C1B1C1B1C1B1C1B1C1B1C1B1C1B1C1B1C1B1C1B1C1B1C1B1C1B1C1B1C1B1C1B1C",
     "1B1C1B1C1B1C1B1C1B1C1B1C1B1C1B1C1B1C1B1C1B1C1B1C1B1C1B1C1B1C1B1C1B1C1B1C1B1C1B1C1B1C1B1C1",
     "B1C1B1C1B1C1B1C1B1C1B1C1B1C1B1C1B1C1B1C1B1C2W6B1C1B1C1G3B1C1A5S4L1S2C38A1C1A5C1A2F56A7E1S",
     "1A14G1F23A9F7A1F7A1F7A1F7A1F7A1F7A1F7A1F7A1G32S2Q1R1Q1R1S3Q1R1S1Q1R1S9N1S2N1S1Q1R1S2Q1R1O",
     "1P1O1P1O1P1O1P1S5E1S10N2S4N1S1O1S13W2S3O1P1O1P1O1P1O1P1N1A34W26A1W89A12W214A26W16X1S3W1E1",
     "F1K1O1P1O1P1O1P1O1P1O1P1W2O1P1O1P1O1P1O1P1N1O1P2W1K9G4H2N1E5W2K3E1F1S1W2A1F86A2G2V2E2F1N1",
     "F90S1E3F1A5F43A1F94A1W2L4W10F32W38A9W1F16W31A1L10W30L8W1L15W32L10W39L15W320F6592W64F21013",
     "E1F1143A3W55A9F40E6S2F268E1S3F16J10F2A20B1C1B1C1B1C1B1C1B1C1B1C1B1C1B1C1B1C1B1C1B1C1B1C1B",
     "1C1B1C1B1C1B1C1B1C1B1C1B1C1B1C1B1C1B1C1B1C1F1G1I3S1G10S1E1B1C1B1C1B1C1B1C1B1C1B1C1B1C1B1C",
     "1B1C1B1C1B1C1B1C1B1C1B1C1E2G2F70K10G2S6A8V23E9V2B1C1B1C1B1C1B1C1B1C1B1C1B1C3B1C1B1C1B1C1B",
     "1C1B1C1B1C1B1C1B1C1B1C1B1C1B1C1B1C1B1C1B1C1B1C1B1C1B1C1B1C1B1C1B1C1B1C1B1C1B1C1B1C1B1C1B1",
     "C1B1C1B1C1B1C1B1C1B1C1E1C8B1C1B1C1B2C1B1C1B1C1B1C1B1C1E1V2B1C1B1C1F1B1C1B1C3B1C1B1C1B1C1B",
     "1C1B1C1B1C1B1C1B1C1B1C1B1C1B5C1B5C1B1C1B1C1B1C1B1C1B1C1B1C1B1C1B4C1B1C1B2C1A2B1C1A1C1A1C1",
     "B1C1B1C1B1C1B1A21E3B1C1F1E2C1F7G1F3G1F4G1F23H2G2H1W4G1A3L6W2U1W1A6F52S4A8H2F50H16G2A8S2J1",
     "0A6G18F6S3F1S1F2G1J10F28G8S2F23G11H2A11S1F29A3G3H1F47G1H2G4H2G2H3S13A1E1J10A4S2F5G1E1F9J1",
     "0F5A1F41G6H2G2H2G2A9F3G1F8G1H1A2J10A2S4F16E1F6W3F1H1G1H1F50G1F1G3F2G2F5G2F1G1F1A24F2E1S2F",
     "11H1G2H2S2F1E2H1G1A10F6A2F6A2F6A9F7A1F7A1C43V1E4C9E1V2A4C80F35H2G1H2G1H2S1H1G1A2J10A6F111",
     "72A12F23A4F49A4c2048d6400F366A2F106A38C7A12C5A5F1G1F10T1F13A1F5A1F1A1F2A1F2A1F108V17A16F3",
     "63P1O1W16F64A2F54A7W1A32F12U1W3G16S7O1P1S1A6G16S1N2M2O1P1O1P1O1P1O1P1O1P1O1P1O1P1O1P1S2O1",
     "P1S4M3S3A1S4N1O1P1O1P1O1P1S3T1N1T3A1S1U1S2A4F5A1F135A2b1A1S3U1S3O1P1S1T1S1N1S2J10S2T3S2B2",
     "6O1S1P1V1M1V1C26O1T1P1T1O1P1S1O1P1S2F10E1F45E2F31A3F6A2F6A2F6A2F3A3U2T1V1W1U2A1W1T4W2A10b",
     "3W2A2F12A1F26A1F19A1F2A1F15A2F14A34F123A5S3A4L45A3W9K53L4W17L2W3A1W13A3W1A47W45G1A130F29A",
     "3F49A15G1L27A4F32L4A9F20K1F8K1A5F38G5A5F30A1S1F36A4F8S1K5A42B40C40F78A2J10A6B36A4C36A4F40",
     "A8F52A11S1B11A1B15A1B7A1B2A1C11A1C15A1C7A1C2A3F52A12F311A9F22A10F8A24E6A1E42A1E9A69F6A2F1",
     "A1F44A1F2A3F1A2F23A1S1L8F23W2L7F31A8L9A48F19A1F2A5L5F22L6A3S1F26A5S1A64F56A4L2F2L16A2L46F",
     "1G3A1G2A5G4F4A1F3A1F29A2G3A4G1L9A7S9A7F29L2S1F29L3A32F8W1F28G2A4L5S7A9F54A3S7F22A2L8F19A5",
     "L8F18A7S4A12L7A80F73A55B51A13C51A7L6F36G4A8J10A6J10F4E1F1B22A3G5N1E1C22A8T2A208L31A1F42A1",
     "G2N1A2F2A16F3A55G4F29L10F1A8F22G11L4S5A22F18G4S4A38F21L7A20F23A9H1G1H1F53G15S7A4L20J10G1F",
     "2G2F1A9G3H1F45H3G4H2G2S2b1S4G1A10b1A2F25A7J10A6G3F36G5H1G8A1J10S4F1H2F1A8F35G1S2F1A9G2H1F",
     "48H3G9H2F4S4G4S1H1G1J10F1S1F1S3A1L20A11F18A1F25H3G3H2G1H1G2S6G1F2G1A62F7A1F1A1F4A1F15A1F1",
     "0S1A6F47G1H3G8A5J10A6G2H2A1F8A2F2A2F22A1F7A1F2A1F5A1G2F1H2G1H4A2H2A2H3A2F1A6H1A5F5H2A2G7A",
     "3G5A11F10A1F1A2F1A1F38A1F1H3G6A1H1A2H1A1H4A1H2G1H1G1F1G1F1S2A1S2A8G2A29F53H3G8H2G3H1G1F4S",
     "5J10S2A1S1G1F3A30F48H3G6H1G1H4G2H1G2F2S1F1A8J10A166F47H3G4A2H4G2H1G2S23F4G2A34F48H3G8H2G1",
     "H1G2S3F1A11J10A6S13A19F43G1H1G1H2G6H1G1F1S1A6J10A6J20A28F27A2G1H1G1H2G4H1G5A4J10L2S3W1F7A",
     "185F44H3G9H1G2S1A100B32C32J10L9A12F8A2F1A2F8A1F2A1F24H6A1H2A2G2H1G1F1H1F1H1G1S3A9J10A70F8",
     "A2F39H3G4A2G2H4G1F1S1F1H1A27F1G10F40G6H1F1G4S8G1A8F1G6H2G3F46G13H1G2S3F1S5A13F73A7S10A182",
     "F33S1A14J10A6F9A1F37H1G7A1G6H1G1F1S5A10J10L19A3S2F30A2G22A1H1G7H1G2H1G2A73F7A1F2A1F38G6A3",
     "G1A1G2A1G7F1G1A8J10A6F6A1F2A1F32H5A1G2A1H2G1H1G1F1A7J10A310F19G2H2S2A7G2F1H1F13A1F34H2G5A",
     "3H2G1H1G1S13J10G1A85F1A15L21W8U4W17A13S1F922A102K111A1S5A11F196A2636F97S2A13F1072b16G1F6G",
     "15A10F3995A5F583A6841F30G12H3G3J10A1734F569A7F31A1J10A4S2F79A1J10A6F30A2G5S1A10F48G7S5W4E",
     "4S1W1A10J10A1L7A1F21A5F19A432E3F40E2S3J10A198B32C32L23S4A101F75A4G1F1H55A7G4E13A64E2S1E1G",
     "1A11H2A14F6136A8F1238A41F10A8935E4A1E7A1E2A1F291A15F1A29F3A2F1A14F4A8F396A2308F107A5F13A3",
     "F9A7F10A2W1G2S1b4A3932W240J10A6W436A76G46A2G23A9W116A60W246A10W39A2W60H2G3W3H6b8G8W2G7W30",
     "G4W61A21W66G3W1A122L20A12L20A12W87A9L25A135B26C26B26C7A1C18B26C26B1A1B2A2B1A2B2A2B4A1B8C4",
     "A1C1A1C7A1C11B26C26B2A1B4A2B8A1B7A1C26B2A1B4A1B5A1B1A3B7A1C26B26C26B26C26B26C26B26C26B26C",
     "26B26C28A2B25T1C25T1C6B25T1C25T1C6B25T1C25T1C6B25T1C25T1C6B25T1C25T1C6B1C1A2J50W512G55W4G",
     "50W8G1W14G1W2S5A15G5A1G15A1104C10F1C20A6C6A213G7A1G17A2G7A1G2A1G5A5E62A33G1A112F45A3G7E7A",
     "2J10A4F1W1A320F30G1A17F44G4J10A5U1A464F27E1G4J10A214F30G2F1J10A4S1A480F7A1F4A1F2A1F15A1F1",
     "97A2L9G7A41B34C34G7E1A4J10A4S2A785L59W1L3U1L4A76L45W1L15A194F4A1F27A1F2A1F1A2F1A1F10A1F4A",
     "1F1A1F1A6F1A4F1A1F1A1F1A1F3A1F2A1F1A2F1A1F1A1F1A1F1A1F1A1F2A1F1A2F4A1F7A1F4A1F4A1F1A1F10A",
     "1F17A5F3A1F5A1F17A52T2A270W44A4W100A12W15A2W15A1W15A1W37A10L13W161A56W29A13W44A4W9A7W2A14",
     "W6A154W251V5W728A4W17A3W13A3W119A4W95A6W12A4W1A15W12A4W56A8W10A6W40A8W30A2W12A4W2A62W340A",
     "12W14A2W13A3W10A5W56A7W15A2W11A6W9A7W147A1W92J10A1030F42720A32F4154A6F222A2F5762A14F7473A",
     "15F622A2466F542A1506F4939A5F4192A711761b1A30b96A128G240A65040d65534A2d65534"]

def of (c : Char) : Category := all[runs.classAt c.toNat]?.getD .cn

def isNumber : Category → Bool
  | nd | nl | no => true
  | _ => false

def isSeparator : Category → Bool
  | zs | zl | zp => true
  | _ => false

def isOther : Category → Bool
  | cc | cf | cs | co | cn => true
  | _ => false

end Category

end Warrant.Unicode

import Warrant.Unicode.Runs

/-! Yes-or-no properties of characters (Unicode 16), each with the names it goes by.
Names are in small letters and without separators. -/

namespace Warrant.Unicode

structure Property where
  names : List String
  runs : Runs

namespace Property

def has (p : Property) (c : Char) : Bool := p.runs.has c

def asciiHexDigit : Property where
  names := ["asciihexdigit", "ahex"]
  runs := .ofLines ["A48B10A7B6A26B6"]

def alphabetic : Property where
  names := ["alphabetic", "alpha"]
  runs := .ofLines
    ["A65B26A6B26A47B1A10B1A4B1A5B23A1B31A1B458A4B12A14B5A7B1A1B1A86B1A29B18A1B2A2B4A1B1A6B1A1B",
     "3A1B1A1B20A1B83A1B139A8B166A1B38A2B1A6B41A39B14A1B1A1B2A1B2A1B1A8B27A4B4A29B11A5B56A1B7A1",
     "4B102A1B8A4B8A4B3A10B3A2B1A16B48A13B101A24B33A9B2A4B1A5B24A2B19A19B25A7B11A5B24A1B6A8B1A8",
     "B42A10B12A3B7A6B76A1B16A1B3A4B15A13B19A1B8A2B2A2B22A1B7A1B1A3B4A3B8A2B2A2B2A1B1A8B1A4B2A1",
     "B5A12B2A10B1A4B3A1B6A4B2A2B22A1B7A1B2A1B2A1B2A4B5A4B2A2B2A4B1A7B4A1B1A17B6A11B3A1B9A1B3A1",
     "B22A1B7A1B2A1B5A3B9A1B3A1B2A3B1A15B4A21B4A4B3A1B8A2B2A2B22A1B7A1B2A1B5A3B8A2B2A2B2A9B2A4B",
     "2A1B5A13B1A16B2A1B6A3B3A1B4A3B2A1B1A1B2A3B2A3B3A3B12A4B5A3B3A1B3A3B1A6B1A40B13A1B3A1B23A1",
     "B16A3B8A1B3A1B3A8B2A1B3A2B1A2B4A28B4A1B8A1B3A1B23A1B10A1B5A3B8A1B3A1B3A8B2A6B2A1B4A13B3A1",
     "2B13A1B3A1B41A2B8A1B3A1B3A1B1A5B4A7B5A22B6A1B3A1B18A3B24A1B9A1B1A2B7A8B6A1B1A1B8A18B2A13B",
     "58A5B7A6B1A51B2A1B1A1B5A1B24A1B1A1B19A1B3A2B5A1B1A6B1A14B4A32B1A63B8A1B36A4B19A4B16A1B36A",
     "67B55A1B1A2B5A16B64A10B4A2B38A1B1A5B1A2B43A1B333A1B4A2B7A1B1A1B4A2B41A1B4A2B33A1B4A2B7A1B",
     "1A1B4A2B15A1B57A1B4A2B67A37B16A16B86A2B6A3B620A2B17A1B26A5B75A3B11A7B20A11B21A12B20A12B13",
     "A1B3A1B2A12B52A2B19A14B1A4B1A67B89A7B43A5B70A10B31A1B12A4B9A23B30A2B5A11B44A4B26A54B28A4B",
     "63A2B20A50B1A23B2A11B3A49B52A1B15A1B8A51B42A2B4A10B44A1B11A14B55A22B3A10B36A2B11A5B43A2B3",
     "A41B4A1B6A1B2A3B1A5B192A19B34A11B278A2B6A2B38A2B6A2B8A1B1A1B1A1B1A1B31A2B53A1B7A1B1A3B3A1",
     "B7A3B4A2B6A4B13A5B3A1B7A116B1A13B1A16B13A101B1A4B1A2B10A1B1A3B5A6B1A1B1A1B1A1B4A1B11A2B4A",
     "5B5A4B1A17B41A813B52A1814B229A6B4A3B2A12B38A1B1A5B1A2B56A7B1A16B23A9B7A1B7A1B7A1B7A1B7A1B",
     "7A1B7A1B7A1B32A47B1A469B3A25B9A7B5A2B5A4B86A6B3A1B90A1B4A5B43A1B94A17B32A48B16A512B6592A6",
     "4B22157A67B46A2B269A3B16A10B2A20B47A5B8A3B113A39B9A2B103A2B67A2B2A1B1A1B8A21B20A1B33A24B5",
     "2A12B68A1B1A44B6A3B1A1B3A10B33A5B35A13B29A3B51A1B12A15B1A16B16A10B5A1B55A9B14A18B23A3B69A",
     "1B1A1B1A24B3A2B16A2B4A11B6A2B6A2B6A9B7A1B7A1B43A1B14A6B123A21B11172A12B23A4B49A8452B366A2",
     "B106A38B7A12B5A5B12A1B13A1B5A1B1A1B2A1B2A1B108A33B363A18B64A2B54A40B12A116B5A1B135A36B26A",
     "6B26A11B89A3B6A2B6A2B6A2B3A35B12A1B26A1B19A1B2A1B15A2B14A34B123A69B53A267B29A3B49A47B32A1",
     "3B30A5B43A5B30A2B36A4B8A1B5A42B158A18B36A4B36A4B40A8B52A12B11A1B15A1B7A1B2A1B11A1B15A1B7A",
     "1B2A3B52A12B311A9B22A10B8A24B6A1B42A1B9A69B6A2B1A1B44A1B2A3B1A2B23A10B23A9B31A65B19A1B2A1",
     "0B22A10B26A70B56A6B2A64B4A1B2A5B8A1B3A1B29A42B29A3B29A35B8A1B28A27B54A10B22A10B19A13B18A1",
     "10B73A55B51A13B51A13B40A34B28A3B1A5B23A250B42A1B2A3B2A16B3A55B1A3B29A10B1A8B22A42B18A46B2",
     "1A27B23A9B70A43B5A10B57A9B1A13B25A23B51A17B4A8B35A3B1A9B64A1B4A9B2A10B1A1B1A35B18A1B34A2B",
     "1A6B4A62B7A1B1A1B4A1B15A1B10A7B57A23B4A1B8A2B2A2B22A1B7A1B2A1B5A3B8A2B2A2B2A3B1A6B1A5B7A2",
     "8B10A1B1A2B1A1B38A1B10A1B1A2B1A1B4A1B2A3B1A1B1A44B66A1B3A1B4A20B3A30B66A2B2A1B1A184B54A2B",
     "7A25B6A34B63A1B1A3B1A59B54A2B1A71B27A2B14A21B7A185B57A103B64A31B8A2B1A2B8A1B2A1B30A1B2A2B",
     "2A2B4A93B8A2B46A2B6A1B1A1B2A27B51A2B10A17B72A5B1A18B73A199B33A31B9A1B45A1B7A1B1A49B30A2B2",
     "2A1B14A73B7A1B2A1B44A3B1A1B2A1B3A1B1A2B2A24B6A1B2A1B37A1B2A1B4A1B1A327B23A9B17A1B41A3B3A1",
     "11B1A79B922A102B111A17B196A2636B97A15B1072A17B6A25B3995A5B583A6841B47A1745B569A7B31A17B79",
     "A17B30A18B48A16B4A31B21A5B19A432B45A211B64A128B75A4B57A7B17A64B2A1B1A12B2A14B6136A8B1238A",
     "41B10A8935B4A1B7A1B2A1B291A15B1A29B3A2B1A14B4A8B396A2308B107A5B13A3B9A7B10A4B1A5985B85A1B",
     "71A1B2A2B1A2B2A2B4A1B12A1B1A1B7A1B65A1B4A2B8A1B7A1B28A1B4A1B5A1B1A3B7A1B340A2B25A1B25A1B3",
     "1A1B25A1B31A1B25A1B31A1B25A1B31A1B25A1B8A1844B31A6B6A213B7A1B17A2B7A1B2A1B5A5B62A33B1A112",
     "B45A10B7A16B1A321B30A18B44A484B28A228B30A2B1A495B7A1B4A1B2A1B15A1B197A59B68A3B1A3B1A1204B",
     "4A1B27A1B2A1B1A2B1A1B10A1B4A1B1A1B1A6B1A4B1A1B1A1B1A1B3A1B2A1B1A2B1A1B1A1B1A1B1A1B1A1B2A1",
     "B1A2B4A1B7A1B4A1B4A1B1A1B10A1B17A5B3A1B5A1B17A628B26A6B26A6B26A3702B42720A32B4154A6B222A2",
     "B5762A14B7473A15B622A2466B542A1506B4939A5B4192"]

def bidiControl : Property where
  names := ["bidicontrol", "bidic"]
  runs := .ofLines ["A1564B1A6641B2A26B5A55B4"]

def bidiMirrored : Property where
  names := ["bidimirrored", "bidim"]
  runs := .ofLines
    ["A40B2A18B1A1B1A28B1A1B1A29B1A1B1A45B1A15B1A3710B4A1885B2A2460B2A10B2A54B2A14B2A177B1A192B",
     "4A3B6A3B1A3B2A3B4A1B4A1B1A1B1A4B9A5B1A1B18A5B4A9B2A1B1A1B8A1B32A2B4A5B1A9B2A2B19A5B2A9B5A",
     "2B2A4B24A2B16A8B4A20B2A7B2A1085B14A74B1A2B4A1B2A1B3A5B4A5B3A3B14A403B22A2B6A1B14A8B1A7B6A",
     "3B1A4B5A1B2A2B5A4B1A1B3A2B2A10B6A2B2A12B19A1B4A2B1A1B1A2B1A1B4A5B2A6B3A24B2A11B2A4B4A1B2A",
     "2B2A4B43A2B8A1B40A5B1A1B1A3B5A5B3A4B1A3B5A1B1A256B1A515B4A3B2A1B2A14B2A2B10A43B8A427B10A2",
     "B8A52797B6A5B2A162B2A18B1A1B1A28B1A1B1A29B1A1B1A1B2A1B2A55159B1A57B1A57B1A57B1A57B1"]

def caseIgnorable : Property where
  names := ["caseignorable", "ci"]
  runs := .ofLines
    ["A39B1A6B1A11B1A35B1A1B1A71B1A4B1A1B1A4B1A2B2A503B192A4B2A4B1A9B2A1B1A251B7A207B1A5B1A49B4",
     "5A1B1A1B2A1B2A1B1A44B1A11B6A10B11A1B1A35B1A10B21A16B1A101B8A1B10A1B4A33B1A1B1A30B27A91B11",
     "A58B11A4B1A2B1A24B24A43B3A44B1A7B2A5B9A41B58A55B1A1B1A4B8A4B1A3B7A10B2A13B1A15B1A58B1A4B4",
     "A8B1A20B2A26B1A2B2A57B1A4B2A4B2A2B3A3B1A30B2A3B1A11B2A57B1A4B5A1B2A4B1A20B2A22B6A1B1A58B1",
     "A2B1A1B4A8B1A7B2A11B2A30B1A61B1A12B1A50B1A3B1A55B1A1B3A5B3A1B4A7B2A11B2A29B1A58B1A2B1A6B1",
     "A5B2A20B2A28B2A57B2A4B4A8B1A20B2A29B1A72B1A7B3A1B1A90B1A2B7A11B9A98B1A2B9A9B1A1B7A73B2A27",
     "B1A1B1A1B1A55B14A1B5A1B2A5B11A1B36A9B1A102B4A1B6A1B2A2B2A25B2A4B3A16B4A13B1A2B2A6B1A15B1A",
     "94B1A608B3A946B3A29B2A30B2A30B2A64B2A1B7A8B1A2B11A3B1A5B1A45B5A51B1A65B2A34B1A118B3A4B2A9",
     "B1A6B3A219B2A2B1A58B1A1B7A1B1A1B1A2B8A6B10A2B1A39B1A8B31A49B4A48B1A1B5A1B1A5B1A40B9A12B2A",
     "32B4A2B2A1B3A56B1A1B2A3B1A1B3A58B8A2B2A64B6A82B3A1B13A1B7A4B1A6B1A3B2A50B63A13B1A34B101A4",
     "45B1A1B3A11B3A13B3A13B3A13B2A12B5A8B2A10B1A2B1A2B5A49B5A1B10A1B1A13B1A16B13A51B33A2955B2A",
     "113B3A125B1A15B1A96B32A47B1A469B1A36B4A3B5A5B1A93B6A93B3A28438B1A1250B6A270B1A98B4A1B10A1",
     "B1A28B4A80B2A14B34A78B1A23B3A103B3A3B2A8B1A3B1A4B1A25B2A5B1A151B2A26B18A13B1A38B8A25B11A4",
     "6B3A48B1A2B4A2B2A17B1A21B2A66B6A2B2A2B2A12B1A8B1A35B1A11B1A51B1A1B3A2B2A5B2A1B1A27B1A14B2",
     "A5B2A1B1A100B5A9B3A121B1A2B1A4B1A20272B1A147B17A573B16A3B1A12B16A34B1A2B1A169B1A7B1A6B1A1",
     "1B1A35B1A1B1A47B1A45B2A67B1A21B3A513B1A226B1A149B5A1029B6A1B42A1B9A582B3A1B2A5B4A40B3A4B1",
     "A165B2A573B4A38B1A26B5A1B1A315B2A79B4A70B11A49B4A123B1A54B15A41B1A2B2A10B3A49B4A2B2A2B1A4",
     "B1A10B1A50B3A36B5A1B8A62B1A12B2A52B9A10B4A2B1A95B3A2B1A1B2A6B1A2B1A157B1A3B8A21B2A57B2A3B",
     "1A37B7A3B5A70B6A13B1A1B1A1B1A14B2A85B8A2B3A1B1A23B1A84B6A1B1A4B2A1B2A238B4A6B2A1B2A27B2A8",
     "5B8A2B1A1B2A106B1A1B1A2B6A1B1A101B1A1B1A2B4A1B5A259B9A1B2A256B2A1B1A4B1A144B4A2B2A4B1A32B",
     "10A40B6A2B4A8B1A9B6A2B3A46B13A1B2A406B7A1B6A1B1A82B22A2B7A1B2A1B2A122B6A3B1A1B2A1B7A1B1A7",
     "2B2A3B1A1B1A347B2A11B2A52B5A5B1A1B1A23B1A5333B17A6B15A11464B12A3B3A2496B5A59B7A9B4A508B3A",
     "40B2A482B1A63B17A64B2A1B2A16395B4A1B7A1B2A3230B2A1B4A4700B46A2B23A544B3A9B16A2B7A30B4A148",
     "B3A1979B55A4B50A8B1A14B1A22B5A1B15A1360B7A1B17A2B7A1B2A1B5A5B62A33B1A160B14A368B1A61B4A50",
     "7B5A254B2A736B7A109B8A2735B5A789505B1A30B96A128B240"]

def cased : Property where
  names := ["cased"]
  runs := .ofLines
    ["A65B26A6B26A47B1A10B1A4B1A5B23A1B31A1B195A1B4A4B208A2B35A7B2A30B5A96B1A42B4A2B2A2B4A1B1A6",
     "B1A1B3A1B1A1B20A1B83A1B139A8B166A1B38A9B41A2839B38A1B1A5B1A2B43A1B4A672B86A2B6A2178B11A5B",
     "43A2B3A64B192A64B278A2B6A2B38A2B6A2B8A1B1A1B1A1B1A1B31A2B53A1B7A1B1A3B3A1B7A3B4A2B6A4B13A",
     "5B3A1B7A116B1A13B1A16B13A101B1A4B1A2B10A1B1A3B5A6B1A1B1A1B1A1B4A1B6A4B1A2B4A5B5A4B1A17B32",
     "A3B2A817B52A1814B229A6B4A3B2A12B38A1B1A5B1A30994B46A18B30A132B102A3B4A1B62A2B2A1B1A1B8A21",
     "B5A1B3A821B43A1B14A6B80A20288B7A12B5A1033B26A6B26A1189B80A96B36A4B36A116B11A1B15A1B7A1B2A",
     "1B11A1B15A1B7A1B2A451B1A2B3A1B42A1B9A1221B51A13B51A93B22A10B22A2842B64A21856B64A25984B85A",
     "1B71A1B2A2B1A2B2A2B4A1B12A1B1A1B7A1B65A1B4A2B8A1B7A1B28A1B4A1B5A1B1A3B7A1B340A2B25A1B25A1",
     "B31A1B25A1B31A1B25A1B31A1B25A1B31A1B25A1B8A1844B10A1B20A6B6A261B62A2194B68A2028B26A6B26A6",
     "B26"]

def changesWhenCasefolded : Property where
  names := ["changeswhencasefolded", "cwcf"]
  runs := .ofLines
    ["A65B26A90B1A10B23A1B8A32B1A1B1A1B1A1B1A1B1A1B1A1B1A1B1A1B1A1B1A1B1A1B1A1B1A1B1A1B1A1B1A1B",
     "1A1B1A1B1A1B1A1B1A1B1A1B1A1B1A1B1A1B1A1B1A1B1A2B1A1B1A1B1A1B1A1B1A1B1A1B1A1B1A1B2A1B1A1B1",
     "A1B1A1B1A1B1A1B1A1B1A1B1A1B1A1B1A1B1A1B1A1B1A1B1A1B1A1B1A1B1A1B1A1B1A1B1A1B1A1B1A1B2A1B1A",
     "1B1A1B1A1B2A1B1A1B2A1B3A2B4A1B2A1B3A3B2A1B2A1B1A1B1A1B2A1B1A2B1A1B2A1B3A1B1A1B2A3B1A7B2A1",
     "B2A1B2A1B1A1B1A1B1A1B1A1B1A1B1A1B1A1B1A2B1A1B1A1B1A1B1A1B1A1B1A1B1A1B1A1B1A2B2A1B1A1B3A1B",
     "1A1B1A1B1A1B1A1B1A1B1A1B1A1B1A1B1A1B1A1B1A1B1A1B1A1B1A1B1A1B1A1B1A1B1A1B1A1B1A1B1A1B1A1B1",
     "A1B1A1B1A1B1A1B1A1B1A1B1A7B2A1B2A2B1A1B4A1B1A1B1A1B1A1B1A246B1A42B1A1B1A3B1A8B1A6B1A1B3A1",
     "B1A1B2A1B17A1B9A22B1A12B3A3B2A1B1A1B1A1B1A1B1A1B1A1B1A1B1A1B1A1B1A1B1A1B1A1B1A1B2A2B2A1B1",
     "A1B2A2B51A48B1A1B1A1B1A1B1A1B1A1B1A1B1A1B1A1B1A1B1A1B1A1B1A1B1A1B1A1B1A1B1A1B1A9B1A1B1A1B",
     "1A1B1A1B1A1B1A1B1A1B1A1B1A1B1A1B1A1B1A1B1A1B1A1B1A1B1A1B1A1B1A1B1A1B1A1B1A1B1A1B1A1B1A1B1",
     "A1B1A1B1A1B2A1B1A1B1A1B1A1B1A1B1A1B1A2B1A1B1A1B1A1B1A1B1A1B1A1B1A1B1A1B1A1B1A1B1A1B1A1B1A",
     "1B1A1B1A1B1A1B1A1B1A1B1A1B1A1B1A1B1A1B1A1B1A1B1A1B1A1B1A1B1A1B1A1B1A1B1A1B1A1B1A1B1A1B1A1",
     "B1A1B1A1B1A1B1A1B1A1B1A1B1A1B1A1B1A1B1A1B1A1B1A1B1A2B38A48B1A2840B38A1B1A5B1A810B6A2178B1",
     "0A6B43A2B3A320B1A1B1A1B1A1B1A1B1A1B1A1B1A1B1A1B1A1B1A1B1A1B1A1B1A1B1A1B1A1B1A1B1A1B1A1B1A",
     "1B1A1B1A1B1A1B1A1B1A1B1A1B1A1B1A1B1A1B1A1B1A1B1A1B1A1B1A1B1A1B1A1B1A1B1A1B1A1B1A1B1A1B1A1",
     "B1A1B1A1B1A1B1A1B1A1B1A1B1A1B1A1B1A1B1A1B1A1B1A1B1A1B1A1B1A1B1A1B1A1B1A1B1A1B1A1B1A1B1A1B",
     "1A1B1A1B1A1B1A1B1A1B1A1B1A1B1A1B1A1B1A1B1A1B1A5B2A2B1A1B1A1B1A1B1A1B1A1B1A1B1A1B1A1B1A1B1",
     "A1B1A1B1A1B1A1B1A1B1A1B1A1B1A1B1A1B1A1B1A1B1A1B1A1B1A1B1A1B1A1B1A1B1A1B1A1B1A1B1A1B1A1B1A",
     "1B1A1B1A1B1A1B1A1B1A1B1A1B1A1B1A1B1A1B1A1B1A1B1A1B1A1B1A1B1A1B1A1B1A9B8A8B6A10B8A8B8A8B6A",
     "11B1A1B1A1B1A1B1A8B8A16B48A2B3A2B6A5B3A2B6A11B4A12B5A5B3A2B6A297B1A3B2A6B1A45B16A19B1A818",
     "B26A1840B48A48B1A1B3A2B1A1B1A1B1A1B4A1B1A2B1A8B3A1B1A1B1A1B1A1B1A1B1A1B1A1B1A1B1A1B1A1B1A",
     "1B1A1B1A1B1A1B1A1B1A1B1A1B1A1B1A1B1A1B1A1B1A1B1A1B1A1B1A1B1A1B1A1B1A1B1A1B1A1B1A1B1A1B1A1",
     "B1A1B1A1B1A1B1A1B1A1B1A1B1A1B1A1B1A1B1A1B1A1B1A1B1A1B1A1B1A1B1A1B1A8B1A1B1A4B1A31053B1A1B",
     "1A1B1A1B1A1B1A1B1A1B1A1B1A1B1A1B1A1B1A1B1A1B1A1B1A1B1A1B1A1B1A1B1A1B1A1B1A1B1A1B1A1B1A19B",
     "1A1B1A1B1A1B1A1B1A1B1A1B1A1B1A1B1A1B1A1B1A1B1A1B1A1B1A135B1A1B1A1B1A1B1A1B1A1B1A1B1A3B1A1",
     "B1A1B1A1B1A1B1A1B1A1B1A1B1A1B1A1B1A1B1A1B1A1B1A1B1A1B1A1B1A1B1A1B1A1B1A1B1A1B1A1B1A1B1A1B",
     "1A1B1A1B1A1B1A1B1A1B1A1B1A1B1A10B1A1B1A1B2A1B1A1B1A1B1A1B1A4B1A1B1A2B1A1B1A3B1A1B1A1B1A1B",
     "1A1B1A1B1A1B1A1B1A1B1A1B1A1B5A1B5A1B1A1B1A1B1A1B1A1B1A1B1A1B1A1B4A1B1A1B2A3B1A5B1A1B1A1B1",
     "A1B1A24B1A890B80A20288B7A12B5A1033B26A1221B40A136B36A156B11A1B15A1B7A1B2A1770B51A157B22A2",
     "874B32A21888B32A31392B34"]

def changesWhenCasemapped : Property where
  names := ["changeswhencasemapped", "cwcm"]
  runs := .ofLines
    ["A65B26A6B26A58B1A10B23A1B31A1B64A1B84A1B28A2B14A2B2A1B1A4B93A1B18A6B27A1B2A1B1A1B2A3B2A1B",
     "4A1B5A2B1A1B2A2B1A7B1A2B1A1B2A3B6A5B1A10B2A166B1A42B4A2B2A3B3A1B1A6B1A1B3A1B1A1B20A1B47A3",
     "B33A1B5A1B133A8B166A1B38A10B39A2840B38A1B1A5B1A2B43A2B3A672B86A2B6A2178B11A5B43A2B3A185B1",
     "A3B1A16B1A113B156A2B1A1B118A2B6A2B38A2B6A2B8A1B1A1B1A1B1A1B31A2B53A1B7A1B1A3B3A1B7A3B4A2B",
     "6A4B13A5B3A1B7A297B1A3B2A6B1A27B1A17B32A3B2A817B52A1814B113A1B2A1B2A7B102A7B4A3B2A12B38A1",
     "B1A5B1A30994B46A18B28A134B14A2B62A9B15A3B3A2B5A1B25A1B30A2B2A1B1A1B8A24B2A860B1A28B80A202",
     "88B7A12B5A1033B26A6B26A1189B80A96B36A4B36A116B11A1B15A1B7A1B2A1B11A1B15A1B7A1B2A1731B51A1",
     "3B51A93B22A10B22A2842B64A21856B64A31360B68"]

def changesWhenLowercased : Property where
  names := ["changeswhenlowercased", "cwl"]
  runs := .ofLines
    ["A65B26A101B23A1B7A33B1A1B1A1B1A1B1A1B1A1B1A1B1A1B1A1B1A1B1A1B1A1B1A1B1A1B1A1B1A1B1A1B1A1B",
     "1A1B1A1B1A1B1A1B1A1B1A1B1A1B1A1B1A1B1A1B1A2B1A1B1A1B1A1B1A1B1A1B1A1B1A1B1A2B1A1B1A1B1A1B1",
     "A1B1A1B1A1B1A1B1A1B1A1B1A1B1A1B1A1B1A1B1A1B1A1B1A1B1A1B1A1B1A1B1A1B1A1B1A1B1A1B2A1B1A1B1A",
     "3B2A1B1A1B2A1B3A2B4A1B2A1B3A3B2A1B2A1B1A1B1A1B2A1B1A2B1A1B2A1B3A1B1A1B2A3B1A7B2A1B2A1B2A1",
     "B1A1B1A1B1A1B1A1B1A1B1A1B1A1B1A2B1A1B1A1B1A1B1A1B1A1B1A1B1A1B1A1B1A2B2A1B1A1B3A1B1A1B1A1B",
     "1A1B1A1B1A1B1A1B1A1B1A1B1A1B1A1B1A1B1A1B1A1B1A1B1A1B1A1B1A1B1A1B1A1B1A1B1A1B1A1B1A1B1A1B1",
     "A1B1A1B1A1B1A1B1A7B2A1B2A2B1A1B4A1B1A1B1A1B1A1B1A289B1A1B1A3B1A8B1A6B1A1B3A1B1A1B2A1B17A1",
     "B9A35B1A8B1A1B1A1B1A1B1A1B1A1B1A1B1A1B1A1B1A1B1A1B1A1B1A5B1A2B1A1B2A2B51A48B1A1B1A1B1A1B1",
     "A1B1A1B1A1B1A1B1A1B1A1B1A1B1A1B1A1B1A1B1A1B1A1B1A1B1A9B1A1B1A1B1A1B1A1B1A1B1A1B1A1B1A1B1A",
     "1B1A1B1A1B1A1B1A1B1A1B1A1B1A1B1A1B1A1B1A1B1A1B1A1B1A1B1A1B1A1B1A1B1A1B1A1B2A1B1A1B1A1B1A1",
     "B1A1B1A1B1A2B1A1B1A1B1A1B1A1B1A1B1A1B1A1B1A1B1A1B1A1B1A1B1A1B1A1B1A1B1A1B1A1B1A1B1A1B1A1B",
     "1A1B1A1B1A1B1A1B1A1B1A1B1A1B1A1B1A1B1A1B1A1B1A1B1A1B1A1B1A1B1A1B1A1B1A1B1A1B1A1B1A1B1A1B1",
     "A1B1A1B1A1B1A1B1A1B1A1B1A2B38A2889B38A1B1A5B1A722B86A2195B1A6B43A2B3A320B1A1B1A1B1A1B1A1B",
     "1A1B1A1B1A1B1A1B1A1B1A1B1A1B1A1B1A1B1A1B1A1B1A1B1A1B1A1B1A1B1A1B1A1B1A1B1A1B1A1B1A1B1A1B1",
     "A1B1A1B1A1B1A1B1A1B1A1B1A1B1A1B1A1B1A1B1A1B1A1B1A1B1A1B1A1B1A1B1A1B1A1B1A1B1A1B1A1B1A1B1A",
     "1B1A1B1A1B1A1B1A1B1A1B1A1B1A1B1A1B1A1B1A1B1A1B1A1B1A1B1A1B1A1B1A1B1A1B1A1B1A1B1A1B1A1B1A1",
     "B1A1B1A1B1A1B1A9B1A1B1A1B1A1B1A1B1A1B1A1B1A1B1A1B1A1B1A1B1A1B1A1B1A1B1A1B1A1B1A1B1A1B1A1B",
     "1A1B1A1B1A1B1A1B1A1B1A1B1A1B1A1B1A1B1A1B1A1B1A1B1A1B1A1B1A1B1A1B1A1B1A1B1A1B1A1B1A1B1A1B1",
     "A1B1A1B1A1B1A1B1A1B1A1B1A1B1A1B1A9B8A8B6A10B8A8B8A8B6A11B1A1B1A1B1A1B1A8B8A24B8A8B8A8B8A8",
     "B5A11B5A11B4A12B5A11B5A297B1A3B2A6B1A45B16A19B1A818B26A1840B48A48B1A1B3A2B1A1B1A1B1A1B4A1",
     "B1A2B1A8B3A1B1A1B1A1B1A1B1A1B1A1B1A1B1A1B1A1B1A1B1A1B1A1B1A1B1A1B1A1B1A1B1A1B1A1B1A1B1A1B",
     "1A1B1A1B1A1B1A1B1A1B1A1B1A1B1A1B1A1B1A1B1A1B1A1B1A1B1A1B1A1B1A1B1A1B1A1B1A1B1A1B1A1B1A1B1",
     "A1B1A1B1A1B1A1B1A1B1A1B1A1B1A8B1A1B1A4B1A31053B1A1B1A1B1A1B1A1B1A1B1A1B1A1B1A1B1A1B1A1B1A",
     "1B1A1B1A1B1A1B1A1B1A1B1A1B1A1B1A1B1A1B1A1B1A1B1A19B1A1B1A1B1A1B1A1B1A1B1A1B1A1B1A1B1A1B1A",
     "1B1A1B1A1B1A1B1A135B1A1B1A1B1A1B1A1B1A1B1A1B1A3B1A1B1A1B1A1B1A1B1A1B1A1B1A1B1A1B1A1B1A1B1",
     "A1B1A1B1A1B1A1B1A1B1A1B1A1B1A1B1A1B1A1B1A1B1A1B1A1B1A1B1A1B1A1B1A1B1A1B1A1B1A1B1A10B1A1B1",
     "A1B2A1B1A1B1A1B1A1B1A4B1A1B1A2B1A1B1A3B1A1B1A1B1A1B1A1B1A1B1A1B1A1B1A1B1A1B1A1B5A1B5A1B1A",
     "1B1A1B1A1B1A1B1A1B1A1B1A1B4A1B1A1B2A3B1A5B1A1B1A1B1A1B1A24B1A22315B26A1221B40A136B36A156B",
     "11A1B15A1B7A1B2A1770B51A157B22A2874B32A21888B32A31392B34"]

def changesWhenTitlecased : Property where
  names := ["changeswhentitlecased", "cwt"]
  runs := .ofLines
    ["A97B26A58B1A41B24A1B8A1B1A1B1A1B1A1B1A1B1A1B1A1B1A1B1A1B1A1B1A1B1A1B1A1B1A1B1A1B1A1B1A1B1",
     "A1B1A1B1A1B1A1B1A1B1A1B1A1B1A1B1A1B1A1B1A1B1A2B1A1B1A1B1A1B1A1B1A1B1A1B1A1B2A1B1A1B1A1B1A",
     "1B1A1B1A1B1A1B1A1B1A1B1A1B1A1B1A1B1A1B1A1B1A1B1A1B1A1B1A1B1A1B1A1B1A1B1A1B1A1B1A2B1A1B1A1",
     "B3A2B1A1B1A2B1A3B1A5B1A2B1A3B3A2B1A2B1A1B1A1B1A2B1A4B1A2B1A3B1A1B1A2B1A3B1A1B1A4B1A1B2A1B",
     "2A1B1A1B1A1B1A1B1A1B1A1B1A1B1A1B1A1B2A1B1A1B1A1B1A1B1A1B1A1B1A1B1A1B1A1B3A1B1A1B1A3B1A1B1",
     "A1B1A1B1A1B1A1B1A1B1A1B1A1B1A1B1A1B1A1B1A1B1A1B1A1B1A1B1A1B1A1B1A1B1A1B1A3B1A1B1A1B1A1B1A",
     "1B1A1B1A1B1A1B1A1B1A8B1A2B2A1B1A4B1A1B1A1B1A1B1A1B6A1B2A1B1A1B2A3B2A1B4A1B5A2B1A1B2A2B1A7",
     "B1A2B1A1B2A3B6A5B1A10B2A166B1A43B1A1B1A3B1A3B3A18B1A27B35A1B2A3B3A1B1A1B1A1B1A1B1A1B1A1B1",
     "A1B1A1B1A1B1A1B1A1B1A1B5A1B1A2B1A2B1A52B48A1B1A1B1A1B1A1B1A1B1A1B1A1B1A1B1A1B1A1B1A1B1A1B",
     "1A1B1A1B1A1B1A1B1A1B1A9B1A1B1A1B1A1B1A1B1A1B1A1B1A1B1A1B1A1B1A1B1A1B1A1B1A1B1A1B1A1B1A1B1",
     "A1B1A1B1A1B1A1B1A1B1A1B1A1B1A1B1A1B1A1B1A2B1A1B1A1B1A1B1A1B1A1B1A1B2A1B1A1B1A1B1A1B1A1B1A",
     "1B1A1B1A1B1A1B1A1B1A1B1A1B1A1B1A1B1A1B1A1B1A1B1A1B1A1B1A1B1A1B1A1B1A1B1A1B1A1B1A1B1A1B1A1",
     "B1A1B1A1B1A1B1A1B1A1B1A1B1A1B1A1B1A1B1A1B1A1B1A1B1A1B1A1B1A1B1A1B1A1B1A1B1A1B1A1B1A49B39A",
     "3696B6A2178B9A1B1A238B1A3B1A16B1A114B1A1B1A1B1A1B1A1B1A1B1A1B1A1B1A1B1A1B1A1B1A1B1A1B1A1B",
     "1A1B1A1B1A1B1A1B1A1B1A1B1A1B1A1B1A1B1A1B1A1B1A1B1A1B1A1B1A1B1A1B1A1B1A1B1A1B1A1B1A1B1A1B1",
     "A1B1A1B1A1B1A1B1A1B1A1B1A1B1A1B1A1B1A1B1A1B1A1B1A1B1A1B1A1B1A1B1A1B1A1B1A1B1A1B1A1B1A1B1A",
     "1B1A1B1A1B1A1B1A1B1A1B1A1B1A1B1A1B1A1B1A1B1A1B1A1B1A1B1A1B1A1B1A1B7A5B1A1B1A1B1A1B1A1B1A1",
     "B1A1B1A1B1A1B1A1B1A1B1A1B1A1B1A1B1A1B1A1B1A1B1A1B1A1B1A1B1A1B1A1B1A1B1A1B1A1B1A1B1A1B1A1B",
     "1A1B1A1B1A1B1A1B1A1B1A1B1A1B1A1B1A1B1A1B1A1B1A1B1A1B1A1B1A1B1A1B1A1B1A1B1A1B1A1B9A8B6A10B",
     "8A8B8A8B6A10B8A8B8A8B14A2B8A8B8A8B8A8B5A1B2A6B1A3B3A1B2A8B4A2B2A8B8A10B3A1B2A342B1A33B16A",
     "4B1A843B26A1862B48A1B1A3B2A1B1A1B1A1B1A6B1A2B1A10B1A1B1A1B1A1B1A1B1A1B1A1B1A1B1A1B1A1B1A1",
     "B1A1B1A1B1A1B1A1B1A1B1A1B1A1B1A1B1A1B1A1B1A1B1A1B1A1B1A1B1A1B1A1B1A1B1A1B1A1B1A1B1A1B1A1B",
     "1A1B1A1B1A1B1A1B1A1B1A1B1A1B1A1B1A1B1A1B1A1B1A1B1A1B1A1B1A1B1A1B1A1B1A8B1A1B1A4B1A12B38A1",
     "B1A5B1A30995B1A1B1A1B1A1B1A1B1A1B1A1B1A1B1A1B1A1B1A1B1A1B1A1B1A1B1A1B1A1B1A1B1A1B1A1B1A1B",
     "1A1B1A1B1A1B1A19B1A1B1A1B1A1B1A1B1A1B1A1B1A1B1A1B1A1B1A1B1A1B1A1B1A1B1A135B1A1B1A1B1A1B1A",
     "1B1A1B1A1B1A3B1A1B1A1B1A1B1A1B1A1B1A1B1A1B1A1B1A1B1A1B1A1B1A1B1A1B1A1B1A1B1A1B1A1B1A1B1A1",
     "B1A1B1A1B1A1B1A1B1A1B1A1B1A1B1A1B1A1B1A1B1A1B1A10B1A1B1A2B1A1B1A1B1A1B1A1B1A4B1A4B1A1B2A2",
     "B1A1B1A1B1A1B1A1B1A1B1A1B1A1B1A1B1A1B1A11B1A1B1A1B1A1B1A1B1A1B1A1B1A1B1A4B1A1B1A2B1A3B1A1",
     "B1A1B1A1B1A1B1A1B1A26B1A860B1A28B80A20288B7A12B5A1065B26A1229B40A136B36A155B11A1B15A1B7A1",
     "B2A1795B51A125B22A2874B32A21888B32A31394B34"]

def changesWhenUppercased : Property where
  names := ["changeswhenuppercased", "cwu"]
  runs := .ofLines
    ["A97B26A58B1A41B24A1B8A1B1A1B1A1B1A1B1A1B1A1B1A1B1A1B1A1B1A1B1A1B1A1B1A1B1A1B1A1B1A1B1A1B1",
     "A1B1A1B1A1B1A1B1A1B1A1B1A1B1A1B1A1B1A1B1A1B1A2B1A1B1A1B1A1B1A1B1A1B1A1B1A1B2A1B1A1B1A1B1A",
     "1B1A1B1A1B1A1B1A1B1A1B1A1B1A1B1A1B1A1B1A1B1A1B1A1B1A1B1A1B1A1B1A1B1A1B1A1B1A1B1A2B1A1B1A1",
     "B3A2B1A1B1A2B1A3B1A5B1A2B1A3B3A2B1A2B1A1B1A1B1A2B1A4B1A2B1A3B1A1B1A2B1A3B1A1B1A5B2A1B2A1B",
     "2A1B1A1B1A1B1A1B1A1B1A1B1A1B1A1B2A1B1A1B1A1B1A1B1A1B1A1B1A1B1A1B1A1B2A1B2A1B1A3B1A1B1A1B1",
     "A1B1A1B1A1B1A1B1A1B1A1B1A1B1A1B1A1B1A1B1A1B1A1B1A1B1A1B1A1B1A1B1A1B1A3B1A1B1A1B1A1B1A1B1A",
     "1B1A1B1A1B1A1B1A8B1A2B2A1B1A4B1A1B1A1B1A1B1A1B6A1B2A1B1A1B2A3B2A1B4A1B5A2B1A1B2A2B1A7B1A2",
     "B1A1B2A3B6A5B1A10B2A166B1A43B1A1B1A3B1A3B3A18B1A27B35A1B2A3B3A1B1A1B1A1B1A1B1A1B1A1B1A1B1",
     "A1B1A1B1A1B1A1B1A1B5A1B1A2B1A2B1A52B48A1B1A1B1A1B1A1B1A1B1A1B1A1B1A1B1A1B1A1B1A1B1A1B1A1B",
     "1A1B1A1B1A1B1A1B1A9B1A1B1A1B1A1B1A1B1A1B1A1B1A1B1A1B1A1B1A1B1A1B1A1B1A1B1A1B1A1B1A1B1A1B1",
     "A1B1A1B1A1B1A1B1A1B1A1B1A1B1A1B1A1B1A2B1A1B1A1B1A1B1A1B1A1B1A1B2A1B1A1B1A1B1A1B1A1B1A1B1A",
     "1B1A1B1A1B1A1B1A1B1A1B1A1B1A1B1A1B1A1B1A1B1A1B1A1B1A1B1A1B1A1B1A1B1A1B1A1B1A1B1A1B1A1B1A1",
     "B1A1B1A1B1A1B1A1B1A1B1A1B1A1B1A1B1A1B1A1B1A1B1A1B1A1B1A1B1A1B1A1B1A1B1A1B1A1B1A49B39A2888",
     "B43A2B3A760B6A2178B9A1B1A238B1A3B1A16B1A114B1A1B1A1B1A1B1A1B1A1B1A1B1A1B1A1B1A1B1A1B1A1B1",
     "A1B1A1B1A1B1A1B1A1B1A1B1A1B1A1B1A1B1A1B1A1B1A1B1A1B1A1B1A1B1A1B1A1B1A1B1A1B1A1B1A1B1A1B1A",
     "1B1A1B1A1B1A1B1A1B1A1B1A1B1A1B1A1B1A1B1A1B1A1B1A1B1A1B1A1B1A1B1A1B1A1B1A1B1A1B1A1B1A1B1A1",
     "B1A1B1A1B1A1B1A1B1A1B1A1B1A1B1A1B1A1B1A1B1A1B1A1B1A1B1A1B1A1B1A1B1A1B1A1B7A5B1A1B1A1B1A1B",
     "1A1B1A1B1A1B1A1B1A1B1A1B1A1B1A1B1A1B1A1B1A1B1A1B1A1B1A1B1A1B1A1B1A1B1A1B1A1B1A1B1A1B1A1B1",
     "A1B1A1B1A1B1A1B1A1B1A1B1A1B1A1B1A1B1A1B1A1B1A1B1A1B1A1B1A1B1A1B1A1B1A1B1A1B1A1B1A1B1A1B9A",
     "8B6A10B8A8B8A8B6A10B8A8B8A8B14A2B53A1B2A4B1A1B1A3B3A1B2A4B1A3B4A2B2A8B8A10B3A1B2A4B1A337B",
     "1A33B16A4B1A843B26A1862B48A1B1A3B2A1B1A1B1A1B1A6B1A2B1A10B1A1B1A1B1A1B1A1B1A1B1A1B1A1B1A1",
     "B1A1B1A1B1A1B1A1B1A1B1A1B1A1B1A1B1A1B1A1B1A1B1A1B1A1B1A1B1A1B1A1B1A1B1A1B1A1B1A1B1A1B1A1B",
     "1A1B1A1B1A1B1A1B1A1B1A1B1A1B1A1B1A1B1A1B1A1B1A1B1A1B1A1B1A1B1A1B1A1B1A1B1A1B1A8B1A1B1A4B1",
     "A12B38A1B1A5B1A30995B1A1B1A1B1A1B1A1B1A1B1A1B1A1B1A1B1A1B1A1B1A1B1A1B1A1B1A1B1A1B1A1B1A1B",
     "1A1B1A1B1A1B1A1B1A1B1A19B1A1B1A1B1A1B1A1B1A1B1A1B1A1B1A1B1A1B1A1B1A1B1A1B1A1B1A135B1A1B1A",
     "1B1A1B1A1B1A1B1A1B1A3B1A1B1A1B1A1B1A1B1A1B1A1B1A1B1A1B1A1B1A1B1A1B1A1B1A1B1A1B1A1B1A1B1A1",
     "B1A1B1A1B1A1B1A1B1A1B1A1B1A1B1A1B1A1B1A1B1A1B1A1B1A1B1A10B1A1B1A2B1A1B1A1B1A1B1A1B1A4B1A4",
     "B1A1B2A2B1A1B1A1B1A1B1A1B1A1B1A1B1A1B1A1B1A1B1A11B1A1B1A1B1A1B1A1B1A1B1A1B1A1B1A4B1A1B1A2",
     "B1A3B1A1B1A1B1A1B1A1B1A1B1A26B1A860B1A28B80A20288B7A12B5A1065B26A1229B40A136B36A155B11A1B",
     "15A1B7A1B2A1795B51A125B22A2874B32A21888B32A31394B34"]

def dash : Property where
  names := ["dash"]
  runs := .ofLines
    ["A45B1A1372B1A51B1A3649B1A1029B1A2057B6A61B1A39B1A15B1A390B1A3076B1A2B1A31B2A4B1A28B1A446B",
     "1A19B1A111B1A52624B2A37B1A10B1A169B1A3680B1A318B1"]

def defaultIgnorableCodePoint : Property where
  names := ["defaultignorablecodepoint", "di"]
  runs := .ofLines
    ["A173B1A673B1A716B1A2882B2A1619B2A85B5A2043B5A26B5A49B16A4340B1A52379B16A239B1A160B1A79B9A",
     "48295B4A5327B8A798341B4096"]

def deprecated : Property where
  names := ["deprecated", "dep"]
  runs := .ofLines ["A329B1A1321B1A2307B1A1B1A2089B2A2245B6A697B2A908502B1"]

def diacritic : Property where
  names := ["diacritic", "dia"]
  runs := .ofLines
    ["A94B1A1B1A71B1A6B1A4B1A2B2A503B159A1B8A5B6A17B2A4B1A9B2A253B5A209B1A55B45A1B1A1B2A1B2A1B1",
     "A131B8A4B2A134B2A4B2A3B3A67B27A91B11A58B11A34B2A126B8A41B10A16B28A61B1A16B1A3B4A28B1A74B1",
     "A16B1A110B1A16B1A110B1A16B1A47B3A60B1A16B1A7B1A119B1A110B1A16B1A110B1A16B1A109B2A16B1A124",
     "B1A111B1A12B6A1B1A107B1A13B5A75B2A27B1A1B1A1B1A4B2A66B3A1B2A62B1A112B1A1B2A40B2A4B5A25B7A",
     "1B1A10B2A705B3A948B2A30B1A148B11A9B1A347B3A292B1A20B8A2B1A48B15A2B11A104B1A15B1A38B9A54B2",
     "A58B1A11B2A66B2A64B6A82B25A4B1A6B1A2B3A50B63A48B36A5B12A37B11A445B1A1B3A11B3A13B3A13B3A13",
     "B2A3312B3A317B1A506B6A105B4A95B1A30066B1A12B2A1B1A28B2A82B2A14B34A102B3A109B2A12B1A37B1A1",
     "51B1A27B18A57B4A36B1A95B1A12B1A36B1A149B3A65B4A51B1A100B5A9B3A128B2A20272B1A769B16A270B1A",
     "1B1A47B1A45B2A67B1A764B1A1183B6A1B42A1B9A637B3A4B1A165B2A571B6A38B1A26B5A399B3A70B11A49B4",
     "A192B1A41B1A72B2A120B2A62B1A76B1A9B3A104B2A178B2A80B2A16B1A24B7A3B5A89B3A1B2A13B2A95B1A3B",
     "1A123B2A251B2A126B1A118B2A115B1A269B2A258B2A4B1A156B1A83B1A18B1A81B1A421B1A258B1A1B2A81B1",
     "A425B2A23B1A5356B15A11481B1A2496B5A59B7A564B2A546B17A80B2A16382B4A1B7A1B2A7937B46A2B23A54",
     "4B3A3B6A8B8A2B7A30B4A3714B62A194B7A375B1A61B4A766B2A736B7A109B3A1B3"]

def emoji : Property where
  names := ["emoji"]
  runs := .ofLines
    ["A35B1A6B1A5B10A111B1A4B1A8077B1A12B1A216B1A22B1A90B6A15B2A367B2A12B1A166B1A25B11A4B3A199B",
     "1A231B2A10B1A9B1A58B4A1B5A9B1A2B1A2B2A2B1A4B1A2B1A1B2A2B1A3B1A3B2A8B3A5B1A1B1A5B12A11B2A2",
     "B1A1B2A1B1A18B1A2B2A18B6A1B1A1B2A3B2A5B1A2B2A4B2A11B2A5B2A2B1A5B2A1B1A1B2A20B2A5B6A1B4A2B",
     "1A4B1A2B1A2B6A1B1A2B1A1B1A1B1A6B1A3B1A6B1A10B2A15B1A2B1A4B1A1B1A4B3A1B1A11B2A48B3A9B1A14B",
     "1A14B1A372B2A463B3A19B2A51B1A4B1A1242B1A12B1A601B1A1B1A114026B1A202B1A160B2A12B2A14B1A2B1",
     "0A75B26A1B2A23B1A20B1A2B9A21B2A174B34A2B112A2B2A1B3A2B83A2B3A1B263A1B63A11B6A1B24A7B2A2B8",
     "A12B1A2B4A2B1A4B2A13B2A2B1A8B2A9B1A5B3A12B3A8B3A2B1A1B1A4B1A6B1A3B1A6B86A48B70A5B8A2B3A4B",
     "10A3B1A1B2A3B1A2B10A227B12A4B1A283B47A1B10A1B185A112B13A3B10A5B56A7B15A2B11A6B9"]

def emojiModifierBase : Property where
  names := ["emojimodifierbase", "ebase"]
  runs := .ofLines
    ["A9757B1A219B1A16B4A117879B1A60B3A2B1A2B3A117B2A2B11A21B19A3B1A4B3A1B3A7B1A1B1A24B1A201B2A",
     "4B1A21B1A4B2A174B3A3B5A83B1A16B3A9B1A11B1A575B1A2B1A8B8A6B1A9B10A2B3A56B1A61B2A1B2A1B1A17",
     "B3A1B13A229B3A42B9"]

def emojiComponent : Property where
  names := ["emojicomponent", "ecomp"]
  runs := .ofLines ["A35B1A6B1A5B10A8147B1A213B1A56619B1A62422B26A507B5A1456B4A788076B96"]

def emojiModifier : Property where
  names := ["emojimodifier", "emod"]
  runs := .ofLines ["A127995B5"]

def emojiPresentation : Property where
  names := ["emojipresentation", "epres"]
  runs := .ofLines
    ["A8986B2A205B4A3B1A2B1A521B2A21B2A50B12A43B1A19B1A13B1A8B2A17B2A5B2A8B1A5B1A21B1A7B2A1B1A4",
     "B1A2B1A7B1A4B2A28B1A35B1A1B1A4B3A1B1A61B3A24B1A14B1A859B2A51B1A4B1A115886B1A202B1A190B1A2",
     "B10A75B26A1B1A24B1A20B1A2B5A1B3A21B2A174B33A12B9A1B70A1B22A12B43A4B5A12B17A3B1A3B71A1B1A1",
     "B187A2B63A13B4A1B24A18B1A26B2A13B1A86B85A48B70A6B1A3B3A2B3A4B4A11B2A7B9A227B12A4B1A283B47",
     "A1B10A1B185A112B13A3B10A5B56A7B15A2B11A6B9"]

def extendedPictographic : Property where
  names := ["extendedpictographic", "extpict"]
  runs := .ofLines
    ["A169B1A4B1A8077B1A12B1A216B1A22B1A90B6A15B2A367B2A12B1A166B1A25B11A4B3A199B1A231B2A10B1A9",
     "B1A58B4A1B5A9B1A2B1A2B2A2B1A4B1A2B1A1B2A2B1A3B1A3B2A8B3A5B1A1B1A5B12A11B2A2B1A1B2A1B1A18B",
     "1A2B2A18B6A1B1A1B2A3B2A5B1A2B2A4B2A11B2A5B2A2B1A5B2A1B1A1B2A20B2A5B6A1B4A2B1A4B1A2B1A2B6A",
     "1B1A2B1A1B1A1B1A6B1A3B1A6B1A10B2A15B1A2B1A4B1A1B1A4B3A1B1A11B2A48B3A9B1A14B1A14B1A372B2A4",
     "63B3A19B2A51B1A4B1A1242B1A12B1A601B1A1B1A114026B1A39B4A100B12A15B2A15B1A14B2A37B10A112B2A",
     "12B2A14B1A2B10A19B56A27B15A10B1A20B1A2B9A1B4A9B23A6B188A2B112A2B2A1B3A2B83A2B3A1B4A5B254A",
     "1B63A11B6A1B24A7B2A2B8A12B1A2B4A2B1A4B2A13B2A2B1A8B2A9B1A5B3A12B3A8B3A2B1A1B1A4B1A6B1A3B1",
     "A6B86A48B70A5B8A2B3A1B13A3B1A1B6A2B13A218B38A12B4A56B8A10B6A40B8A30B2A12B4A2B14A9B39A12B4",
     "7A1B10A1B185A88B8A14B28A1B3A1B57A1B4A1B28A1B4A1B16A256B1022"]

def extender : Property where
  names := ["extender", "ext"]
  runs := .ofLines
    ["A183B1A536B2A878B1A441B1A630B1A137B1A89B1A752B1A127B1A2371B1A56B1A611B1A398B1A68B1A5001B1",
     "A43B5A103B2A93B3A28438B1A1526B1A962B1A22B1A137B1A108B1A21B2A21627B1A2064B2A1483B1A27B1A4B",
     "1A1223B1A293B1A116B2A498B3A1231B1A20649B2A1180B2A1B1A29016B2A1201B1A852B3"]

def graphemeBase : Property where
  names := ["graphemebase", "grbase"]
  runs := .ofLines
    ["A32B95A33B13A1B594A112B8A2B6A4B7A1B1A1B20A1B224A7B166A1B38A2B50A2B3A46B1A1B1A2B1A2B1A9B27",
     "A4B6A17B10A11B1A1B46A21B16A1B101A8B1A6B2A2B1A4B32A2B1A1B30A29B89A11B1A14B43A9B7A3B24A4B1A",
     "9B1A3B1A7B15A1B25A5B1A1B11A5B31A17B42A57B55A1B1A1B4A8B4A1B3A7B10A2B29A1B2A1B8A2B2A2B22A1B",
     "7A1B1A3B4A3B1A1B2A6B2A2B2A1B1A13B2A1B3A4B24A5B1A1B6A4B2A2B22A1B7A1B2A1B2A1B2A4B3A24B4A1B1",
     "A7B10A2B3A1B1A12B1A1B9A1B3A1B22A1B7A1B2A1B5A3B4A8B1A1B2A3B1A15B2A4B12A7B1A8B2A1B8A2B2A2B2",
     "2A1B7A1B2A1B5A3B1A2B1A6B2A2B2A15B2A1B3A4B18A11B1A1B6A3B3A1B4A3B2A1B1A1B2A3B2A3B3A3B12A5B1",
     "A1B2A3B3A1B3A3B1A21B21A6B3A1B8A1B3A1B23A1B16A3B1A3B4A19B3A2B1A2B2A4B10A7B10A1B11A1B3A1B23",
     "A1B10A1B5A3B2A2B1A1B2A24B2A1B2A4B10A1B3A14B11A1B3A1B41A2B1A1B2A5B3A1B3A1B2A4B3A1B10A4B26A",
     "2B2A1B18A3B24A1B9A1B1A2B7A9B2A6B7A7B10A2B3A12B48A1B2A11B8A8B13A37B2A1B1A1B5A1B24A1B1A1B10",
     "A1B2A9B1A2B5A1B1A9B10A2B4A32B24A2B27A1B1A1B1A1B14A1B36A18B1A5B1A2B5A49B8A1B6A1B13A37B45A4",
     "B1A6B1A2B2A2B25A2B4A3B16A4B13A1B2A2B6A1B15A1B40A1B1A5B1A2B377A1B4A2B7A1B1A1B4A2B41A1B4A2B",
     "33A1B4A2B7A1B1A1B4A2B15A1B57A1B4A2B67A5B29A3B26A6B86A2B6A2B669A3B89A7B18A13B19A3B2A9B18A1",
     "4B13A1B3A15B52A2B1A7B8A1B2A11B9A3B10A6B10A6B11A5B10A6B89A7B5A2B34A1B1A5B70A10B31A4B4A2B3A",
     "4B2A1B6A7B1A3B42A2B5A11B44A4B26A6B11A3B57A2B2A3B56A1B1A9B1A1B2A8B6A13B10A6B10A6B14A86B48A",
     "10B4A3B8A1B29A9B12A2B32A4B2A6B56A1B1A2B3A1B1A13B48A8B2A5B15A3B62A5B43A2B11A11B1A13B1A7B4A",
     "1B6A1B3A2B1A5B192A64B278A2B6A2B38A2B6A2B8A1B1A1B1A1B1A1B31A2B53A1B15A1B14A2B6A1B19A2B3A1B",
     "9A1B11A5B24A7B49A16B2A2B27A1B13A3B33A63B140A4B666A22B11A21B1812A2B32A1B344A3B2A5B45A1B1A5",
     "B1A2B56A7B2A15B23A9B7A1B7A1B7A1B7A1B7A1B7A1B7A1B7A33B94A34B26A1B89A12B214A26B58A6B16A1B86",
     "A4B101A5B43A1B94A1B86A9B48A1B29293A3B55A9B348A20B47A4B1A10B32A2B80A2B6A8B206A2B2A1B1A1B8A",
     "21B16A1B3A1B4A1B25A2B5A4B10A6B56A8B68A10B12A24B13A1B38A8B25A11B1A12B30A6B48A1B2A4B2A2B2A1",
     "B13A1B11A4B7A1B25A1B41A6B2A2B2A11B3A1B8A1B1A2B10A2B32A1B51A1B1A3B2A2B5A2B1A1B1A24B17A2B8A",
     "11B6A2B6A2B6A9B7A1B7A1B60A4B117A1B2A1B4A3B10A6B11172A12B23A4B49A8452B366A2B106A38B7A12B5A",
     "5B1A1B24A1B5A1B1A1B2A1B2A1B125A16B445A2B54A7B1A32B16A16B10A22B35A1B19A1B4A4B5A1B135A4B157",
     "A2B31A3B6A2B6A2B6A2B3A3B7A1B7A13B2A2B12A1B26A1B19A1B2A1B15A2B14A34B123A5B3A4B45A3B88A1B13",
     "A3B1A47B45A131B29A3B49A16B27A4B36A9B30A5B38A10B30A1B37A4B14A42B158A2B10A6B36A4B36A4B40A8B",
     "52A11B12A1B15A1B7A1B2A1B11A1B15A1B7A1B2A3B52A12B311A9B22A10B8A24B6A1B42A1B9A69B6A2B1A1B44",
     "A1B2A3B1A2B23A1B72A8B9A48B19A1B2A5B33A3B27A5B1A64B56A4B20A2B47A15B4A1B3A1B29A10B9A7B9A7B6",
     "4A32B37A6B12A9B54A3B29A2B27A5B26A7B4A12B7A80B73A55B51A13B51A7B42A12B10A6B38A8B24A8B2A208B",
     "31A1B42A3B1A2B2A16B3A59B40A8B22A11B9A22B18A4B4A38B28A20B23A9B1A1B54A15B7A4B30A1B2A2B1A12B",
     "49A4B2A2B2A1B4A14B25A7B10A9B36A5B1A9B18A8B35A1B3A11B52A9B1A1B8A4B2A1B16A1B20A11B18A1B28A3",
     "B2A4B6A1B2A63B7A1B1A1B4A1B15A1B11A6B47A1B3A13B10A8B2A1B8A2B2A2B22A1B7A1B2A1B5A3B1A1B1A1B4",
     "A2B2A2B2A3B1A12B7A28B10A1B1A2B1A1B38A1B1A1B2A15B1A1B2A3B1A1B3A1B2A39B56A8B2A3B1A1B21A1B1A",
     "1B3A30B48A1B2A6B1A1B2A1B1A2B1A2B4A8B10A166B47A1B2A6B4A2B1A2B27A36B51A8B2A1B1A2B4A11B10A6B",
     "13A19B43A1B1A1B2A8B2A6B10A6B20A28B27A3B1A1B2A4B1A9B23A185B47A9B1A2B1A100B83A12B8A2B1A2B8A",
     "1B2A1B24A1B5A1B2A6B4A1B3A9B10A70B8A2B42A8B4A1B4A27B1A10B40A6B2A4B8A9B1A6B2A3B46A13B1A2B9A",
     "13B73A7B10A182B34A14B10A6B9A1B38A14B1A1B6A10B29A3B32A25B1A7B1A2B1A75B7A1B2A1B38A21B1A9B10",
     "A6B6A1B2A1B37A4B2A1B1A1B1A7B10A310B19A2B4A9B15A1B36A8B2A3B23A86B1A15B50A13B923A102B111A1B",
     "5A11B196A2636B99A13B1072A17B6A25B3995A5B583A6841B30A12B3A3B10A1734B569A7B31A1B10A4B81A1B1",
     "0A6B30A7B1A10B48A7B15A10B10A1B7A1B21A5B19A432B58A198B91A101B75A5B56A11B13A64B4A28B6136A8B",
     "1238A41B10A8935B4A1B7A1B2A1B291A15B1A29B3A2B1A14B4A8B396A2308B107A5B13A3B9A7B10A2B1A2B1A3",
     "936B250A6B436A156B116A60B246A10B39A2B60A5B3A22B2A7B30A4B61A21B66A3B1A122B20A12B20A12B87A9",
     "B25A135B85A1B71A1B2A2B1A2B2A2B4A1B12A1B1A1B7A1B65A1B4A2B8A1B7A1B28A1B4A1B5A1B1A3B7A1B340A",
     "2B292A2B562A55B4A50B8A1B14A1B7A1140B31A6B6A261B62A146B45A10B7A2B10A4B2A320B30A18B44A4B10A",
     "5B1A464B28A4B10A214B30A2B11A4B1A480B7A1B4A1B2A1B15A1B197A2B9A48B68A7B1A4B10A4B2A785B68A76",
     "B61A194B4A1B27A1B2A1B1A2B1A1B10A1B4A1B1A1B1A6B1A4B1A1B1A1B1A1B3A1B2A1B1A2B1A1B1A1B1A1B1A1",
     "B1A1B2A1B1A2B4A1B7A1B4A1B4A1B1A1B10A1B17A5B3A1B5A1B17A52B2A270B44A4B100A12B15A2B15A1B15A1",
     "B37A10B174A56B29A13B44A4B9A7B2A14B6A154B984A4B17A3B13A3B119A4B95A6B12A4B1A15B12A4B56A8B10",
     "A6B40A8B30A2B12A4B2A62B340A12B14A2B13A3B10A5B56A7B15A2B11A6B9A7B147A1B102A1030B42720A32B4",
     "154A6B222A2B5762A14B7473A15B622A2466B542A1506B4939A5B4192"]

def graphemeExtend : Property where
  names := ["graphemeextend", "grext"]
  runs := .ofLines
    ["A768B112A275B7A263B45A1B1A1B2A1B2A1B1A72B11A48B21A16B1A101B7A2B6A2B2A1B4A35B1A30B27A91B11",
     "A58B9A9B1A24B4A1B9A1B3A1B5A43B3A59B9A42B24A1B32A55B1A1B1A4B8A4B1A3B7A10B2A29B1A58B1A1B1A2",
     "B4A8B1A9B1A10B2A26B1A2B2A57B1A4B2A4B2A2B3A3B1A30B2A3B1A11B2A57B1A4B5A1B2A4B1A20B2A22B6A1B",
     "1A58B1A1B2A1B4A8B1A7B3A10B2A30B1A59B1A1B1A12B1A9B1A40B1A3B1A55B1A1B3A5B3A1B4A7B2A11B2A29B",
     "1A58B1A2B2A1B1A3B3A1B4A7B2A11B2A28B2A57B2A1B1A2B4A8B1A9B1A10B2A29B1A72B1A4B1A2B3A1B1A8B1A",
     "81B1A2B7A12B8A98B1A2B9A11B7A73B2A27B1A1B1A1B1A55B14A1B5A1B2A5B11A1B36A9B1A102B4A1B6A1B2A2",
     "B2A25B2A4B3A16B4A13B1A2B2A6B1A15B1A703B3A946B4A28B3A29B2A30B2A64B2A1B7A8B1A2B11A9B1A45B3A",
     "1B1A117B2A34B1A118B3A4B2A9B1A6B3A219B2A2B1A58B1A1B7A1B1A1B1A2B8A6B10A2B1A48B31A49B4A48B10",
     "A4B3A38B9A12B2A32B4A2B6A56B1A1B2A3B1A1B5A56B8A2B2A152B3A1B13A1B7A4B1A6B1A3B2A198B64A524B1",
     "A195B33A3070B3A141B1A96B32A554B6A105B2A30164B4A1B10A32B2A80B2A272B1A3B1A4B1A25B2A5B1A151B",
     "2A26B18A13B1A38B8A25B11A1B1A44B3A48B1A2B4A2B2A2B1A36B1A67B6A2B2A2B2A12B1A8B1A47B1A51B1A1B",
     "3A2B2A5B2A1B1A42B2A8B1A238B1A2B1A4B1A20272B1A737B16A16B16A366B2A605B1A226B1A149B5A1670B3A",
     "1B2A5B4A40B3A4B1A165B2A573B4A65B5A317B2A79B4A70B11A49B4A123B1A54B15A41B1A2B2A10B3A49B4A2B",
     "2A7B1A61B3A36B5A1B8A62B1A12B2A52B9A1B1A8B4A2B1A95B3A2B4A6B1A2B1A157B1A3B8A21B2A57B2A1B1A1",
     "B1A12B1A9B1A14B7A3B5A67B1A2B6A1B1A2B1A1B3A4B3A1B1A14B2A85B8A2B3A1B1A23B1A81B1A2B6A1B1A2B1",
     "A1B2A1B2A235B1A2B4A6B2A1B2A27B2A85B8A2B1A1B2A106B1A1B1A2B8A101B1A1B1A2B4A1B5A259B9A1B2A24",
     "5B1A10B4A4B1A144B4A2B2A4B1A32B10A40B6A2B4A8B1A9B6A2B3A46B13A1B2A406B7A1B6A1B1A82B22A2B7A1",
     "B2A1B2A122B6A3B1A1B2A1B7A1B1A72B2A3B1A1B1A347B2A11B2A52B5A5B3A23B1A5349B1A6B15A11464B12A3",
     "B3A2496B5A59B7A1048B1A63B4A81B1A11B2A19627B2A4705B46A2B23A542B5A3B6A8B8A2B7A30B4A148B3A19",
     "79B55A4B50A8B1A14B1A22B5A1B15A1360B7A1B17A2B7A1B2A1B5A100B1A160B7A375B1A61B4A508B4A254B2A",
     "736B7A109B7A792277B96A128B240"]

def hexDigit : Property where
  names := ["hexdigit", "hex"]
  runs := .ofLines ["A48B10A7B6A26B6A65193B10A7B6A26B6"]

def idsBinaryOperator : Property where
  names := ["idsbinaryoperator", "idsb"]
  runs := .ofLines ["A12272B2A2B10A497B1"]

def idsTrinaryOperator : Property where
  names := ["idstrinaryoperator", "idst"]
  runs := .ofLines ["A12274B2"]

def idContinue : Property where
  names := ["idcontinue", "idc"]
  runs := .ofLines
    ["A48B10A7B26A4B1A1B26A47B1A10B1A1B1A2B1A5B23A1B31A1B458A4B12A14B5A7B1A1B1A17B117A1B2A2B4A1",
     "B1A6B5A1B1A1B20A1B83A1B139A1B5A2B166A1B38A2B1A6B41A8B45A1B1A1B2A1B2A1B1A8B27A4B4A29B11A5B",
     "74A4B102A1B8A2B10A1B19A2B1A16B59A2B101A14B54A4B1A2B1A2B46A18B28A4B11A5B24A1B6A8B75A1B129A",
     "2B10A1B19A1B8A2B2A2B22A1B7A1B1A3B4A2B9A2B2A2B4A8B1A4B2A1B5A2B12A10B1A1B1A2B3A1B6A4B2A2B22",
     "A1B7A1B2A1B2A1B2A2B1A1B5A4B2A2B3A3B1A7B4A1B1A7B16A11B3A1B9A1B3A1B22A1B7A1B2A1B5A2B10A1B3A",
     "1B3A2B1A15B4A2B10A9B7A1B3A1B8A2B2A2B22A1B7A1B2A1B5A2B9A2B2A2B3A7B3A4B2A1B5A2B10A1B1A16B2A",
     "1B6A3B3A1B4A3B2A1B1A1B2A3B2A3B3A3B12A4B5A3B3A1B4A2B1A6B1A14B10A16B13A1B3A1B23A1B16A2B9A1B",
     "3A1B4A7B2A1B3A2B1A2B4A2B10A16B4A1B8A1B3A1B23A1B10A1B5A2B9A1B3A1B4A7B2A6B2A1B4A2B10A1B3A12",
     "B13A1B3A1B51A1B3A1B5A5B4A7B5A2B10A10B6A1B3A1B18A3B24A1B9A1B1A2B7A3B1A4B6A1B1A1B8A6B10A2B2",
     "A13B58A5B15A1B10A39B2A1B1A1B5A1B24A1B1A1B23A2B5A1B1A1B7A1B10A2B4A32B1A23B2A6B10A11B1A1B1A",
     "1B1A4B10A1B36A4B20A1B18A1B36A9B1A57B74A6B78A2B38A1B1A5B1A2B43A1B333A1B4A2B7A1B1A1B4A2B41A",
     "1B4A2B33A1B4A2B7A1B1A1B4A2B15A1B57A1B4A2B67A2B3A9B9A14B16A16B86A2B6A3B620A2B17A1B26A5B75A",
     "3B11A7B22A9B22A11B20A12B13A1B3A1B2A12B84A3B1A4B2A2B10A33B3A1B11A6B89A7B43A5B70A10B31A1B12",
     "A4B12A10B40A2B5A11B44A4B26A6B11A37B28A4B63A1B29A2B11A6B10A13B1A8B14A1B16A49B77A3B10A17B9A",
     "12B116A12B56A8B10A3B49A2B11A5B43A2B3A16B3A1B39A5B534A2B6A2B38A2B6A2B8A1B1A1B1A1B1A1B31A2B",
     "53A1B7A1B1A3B3A1B7A3B4A2B6A4B13A5B3A1B7A15B2A49B2A19B1A28B1A13B1A16B13A51B13A4B1A3B12A17B",
     "1A4B1A2B10A1B1A2B6A6B1A1B1A1B1A1B16A2B4A5B5A4B1A17B41A2679B229A6B9A12B38A1B1A5B1A2B56A7B1",
     "A15B24A9B7A1B7A1B7A1B7A1B7A1B7A1B7A1B7A1B32A517B3A25B15A1B5A2B5A4B86A2B7A1B95A5B43A1B94A1",
     "7B32A48B16A512B6592A64B22157A67B46A2B269A3B28A20B48A4B10A1B115A37B9A2B103A2B67A2B2A1B1A1B",
     "8A21B54A4B1A19B52A12B70A10B10A6B24A3B1A1B49A2B36A12B29A3B65A14B11A6B31A1B55A9B14A2B10A6B2",
     "3A3B73A24B3A2B16A2B5A10B6A2B6A2B6A9B7A1B7A1B43A1B14A6B123A1B2A2B10A6B11172A12B23A4B49A845",
     "2B366A2B106A38B7A12B5A5B12A1B13A1B5A1B1A1B2A1B2A1B108A33B363A18B64A2B54A40B12A4B16A16B16A",
     "3B2A24B3A32B5A1B135A19B10A7B26A4B1A1B26A10B90A3B6A2B6A2B6A2B3A35B12A1B26A1B19A1B2A1B15A2B",
     "14A34B123A69B53A136B1A130B29A3B49A15B1A31B32A13B30A5B43A5B30A2B36A4B8A1B5A42B158A2B10A6B3",
     "6A4B36A4B40A8B52A12B11A1B15A1B7A1B2A1B11A1B15A1B7A1B2A3B52A12B311A9B22A10B8A24B6A1B42A1B9",
     "A69B6A2B1A1B44A1B2A3B1A2B23A10B23A9B31A65B19A1B2A10B22A10B26A70B56A6B2A64B4A1B2A5B8A1B3A1",
     "B29A2B3A4B1A32B29A3B29A35B8A1B30A25B54A10B22A10B19A13B18A110B73A55B51A13B51A13B40A8B10A6B",
     "38A3B5A1B23A250B42A1B2A3B2A16B3A55B33A10B1A8B33A31B22A42B21A27B23A9B71A31B16A9B60A7B1A13B",
     "25A7B10A6B53A1B10A4B4A8B36A2B1A9B69A4B4A1B13A1B1A35B18A1B37A6B4A62B7A1B1A1B4A1B15A1B10A7B",
     "59A5B10A6B4A1B8A2B2A2B22A1B7A1B2A1B5A1B10A2B2A2B3A2B1A6B1A5B7A2B7A3B5A11B10A1B1A2B1A1B38A",
     "1B10A1B1A2B1A1B4A1B8A13B2A29B75A5B10A4B4A30B70A1B1A8B10A166B54A2B9A23B6A34B65A3B1A11B10A3",
     "8B57A7B10A6B20A28B27A2B15A4B10A6B7A185B59A101B74A21B8A2B1A2B8A1B2A1B30A1B2A2B9A12B10A70B8",
     "A2B46A2B8A1B2A27B63A8B1A8B74A3B1A18B73A199B33A15B10A6B9A1B45A1B9A15B10A24B30A2B22A1B14A73",
     "B7A1B2A1B44A3B1A1B2A1B9A8B10A6B6A1B2A1B37A1B2A1B6A7B10A310B23A9B17A1B41A3B5A13B11A85B1A79",
     "B922A102B111A17B196A2636B97A15B1072A16B22A10B3995A5B583A6841B58A1734B569A7B31A1B10A6B79A1",
     "B10A6B30A2B5A11B55A9B4A12B10A9B21A5B19A432B45A3B10A198B64A128B75A4B57A7B17A64B2A1B2A11B2A",
     "14B6136A8B1238A41B10A8935B4A1B7A1B2A1B291A15B1A29B3A2B1A14B4A8B396A2308B107A5B13A3B9A7B10",
     "A3B2A4177B10A518B46A2B23A542B5A3B6A8B8A2B7A30B4A148B3A443B85A1B71A1B2A2B1A2B2A2B4A1B12A1B",
     "1A1B7A1B65A1B4A2B8A1B7A1B28A1B4A1B5A1B1A3B7A1B340A2B25A1B25A1B31A1B25A1B31A1B25A1B31A1B25",
     "A1B31A1B25A1B8A2B50A512B55A4B50A8B1A14B1A22B5A1B15A1104B31A6B6A213B7A1B17A2B7A1B2A1B5A5B6",
     "2A33B1A112B45A3B14A2B10A4B1A321B31A17B58A470B42A214B43A485B7A1B4A1B2A1B15A1B197A11B7A41B7",
     "6A4B10A1190B4A1B27A1B2A1B1A2B1A1B10A1B4A1B1A1B1A6B1A4B1A1B1A1B1A1B3A1B2A1B1A2B1A1B1A1B1A1",
     "B1A1B1A1B2A1B1A2B4A1B7A1B4A1B4A1B1A1B10A1B17A5B3A1B5A1B17A3380B10A1030B42720A32B4154A6B22",
     "2A2B5762A14B7473A15B622A2466B542A1506B4939A5B4192A712016B240"]

def idStart : Property where
  names := ["idstart", "ids"]
  runs := .ofLines
    ["A65B26A6B26A47B1A10B1A4B1A5B23A1B31A1B458A4B12A14B5A7B1A1B1A129B5A1B2A2B4A1B1A6B1A1B3A1B1",
     "A1B20A1B83A1B139A8B166A1B38A2B1A6B41A71B27A4B4A45B43A35B2A1B99A1B1A15B2A7B2A10B3A2B1A16B1",
     "A1B30A29B89A11B1A24B33A9B2A4B1A5B22A4B1A9B1A3B1A23B25A7B11A5B24A1B6A17B42A58B54A3B1A18B1A",
     "7B10A15B16A4B8A2B2A2B22A1B7A1B1A3B4A3B1A16B1A13B2A1B3A14B2A10B1A8B6A4B2A2B22A1B7A1B2A1B2A",
     "1B2A31B4A1B1A19B3A16B9A1B3A1B22A1B7A1B2A1B5A3B1A18B1A15B2A23B1A11B8A2B2A2B22A1B7A1B2A1B5A",
     "3B1A30B2A1B3A15B1A17B1A1B6A3B3A1B4A3B2A1B1A1B2A3B2A3B3A3B12A22B1A52B8A1B3A1B23A1B16A3B1A2",
     "6B3A2B1A2B2A30B1A4B8A1B3A1B23A1B10A1B5A3B1A31B2A1B2A15B2A17B9A1B3A1B41A2B1A16B1A5B3A8B3A2",
     "4B6A5B18A3B24A1B9A1B1A2B7A58B48A1B2A12B7A58B2A1B1A1B5A1B24A1B1A1B10A1B2A9B1A2B5A1B1A21B4A",
     "32B1A63B8A1B36A27B5A115B43A20B1A16B6A4B4A3B1A3B2A7B3A4B13A12B1A17B38A1B1A5B1A2B43A1B333A1",
     "B4A2B7A1B1A1B4A2B41A1B4A2B33A1B4A2B7A1B1A1B4A2B15A1B57A1B4A2B67A37B16A16B86A2B6A3B620A2B1",
     "7A1B26A5B75A3B11A7B18A13B19A14B18A14B13A1B3A15B52A35B1A4B1A67B89A7B41A1B1A5B70A10B31A49B3",
     "0A2B5A11B44A4B26A54B23A9B53A82B1A93B47A17B8A54B30A13B2A10B44A26B36A41B3A10B36A2B11A5B43A2",
     "B3A41B4A1B6A1B2A3B1A5B192A64B278A2B6A2B38A2B6A2B8A1B1A1B1A1B1A1B31A2B53A1B7A1B1A3B3A1B7A3",
     "B4A2B6A4B13A5B3A1B7A116B1A13B1A16B13A101B1A4B1A2B10A1B1A2B6A6B1A1B1A1B1A1B16A2B4A5B5A4B1A",
     "17B41A2679B229A6B4A3B2A12B38A1B1A5B1A2B56A7B1A16B23A9B7A1B7A1B7A1B7A1B7A1B7A1B7A1B7A550B3",
     "A25B9A7B5A2B5A4B86A4B5A1B90A1B4A5B43A1B94A17B32A48B16A512B6592A64B22157A67B46A2B269A3B16A",
     "10B2A20B47A16B31A2B80A39B9A2B103A2B67A2B2A1B1A1B8A21B16A1B3A1B4A1B23A29B52A14B50A62B6A3B1",
     "A1B2A11B28A10B23A25B29A7B47A28B1A16B5A1B10A10B5A1B41A23B3A1B8A20B23A3B1A3B50A1B1A3B2A2B5A",
     "2B1A1B1A24B3A2B11A7B3A12B6A2B6A2B6A9B7A1B7A1B43A1B14A6B115A29B11172A12B23A4B49A8452B366A2",
     "B106A38B7A12B5A5B1A1B10A1B13A1B5A1B1A1B2A1B2A1B108A33B363A18B64A2B54A40B12A116B5A1B135A36",
     "B26A6B26A11B89A3B6A2B6A2B6A2B3A35B12A1B26A1B19A1B2A1B15A2B14A34B123A69B53A267B29A3B49A47B",
     "32A13B30A5B38A10B30A2B36A4B8A1B5A42B158A18B36A4B36A4B40A8B52A12B11A1B15A1B7A1B2A1B11A1B15",
     "A1B7A1B2A3B52A12B311A9B22A10B8A24B6A1B42A1B9A69B6A2B1A1B44A1B2A3B1A2B23A10B23A9B31A65B19A",
     "1B2A10B22A10B26A70B56A6B2A64B1A15B4A1B3A1B29A42B29A3B29A35B8A1B28A27B54A10B22A10B19A13B18",
     "A110B73A55B51A13B51A13B36A38B28A9B23A250B42A6B2A16B3A59B29A10B1A8B22A42B18A46B21A27B23A12",
     "B53A57B2A2B1A13B45A32B25A26B36A29B1A2B1A8B35A3B1A12B48A14B4A21B1A1B1A35B18A1B25A19B2A63B7",
     "A1B1A1B4A1B15A1B10A7B47A38B8A2B2A2B22A1B7A1B2A1B5A3B1A18B1A12B5A30B10A1B1A2B1A1B38A1B1A25",
     "B1A1B1A44B53A18B4A20B3A30B48A20B2A1B1A184B47A41B4A36B48A20B1A59B43A13B1A71B27A37B7A185B44",
     "A116B64A31B8A2B1A2B8A1B2A1B24A15B1A1B1A94B8A2B39A16B1A1B1A28B1A10B40A7B1A21B1A11B46A19B1A",
     "18B73A199B33A31B9A1B37A17B1A49B30A112B7A1B2A1B38A21B1A25B6A1B2A1B32A14B1A327B19A15B1A1B13",
     "A1B34A124B1A79B922A102B111A17B196A2636B97A15B1072A17B6A25B3995A5B583A6841B30A1762B569A7B3",
     "1A17B79A17B30A18B48A16B4A31B21A5B19A432B45A211B64A128B75A5B1A66B13A64B2A1B1A28B6136A8B123",
     "8A41B10A8935B4A1B7A1B2A1B291A15B1A29B3A2B1A14B4A8B396A2308B107A5B13A3B9A7B10A5990B85A1B71",
     "A1B2A2B1A2B2A2B4A1B12A1B1A1B7A1B65A1B4A2B8A1B7A1B28A1B4A1B5A1B1A3B7A1B340A2B25A1B25A1B31A",
     "1B25A1B31A1B25A1B31A1B25A1B31A1B25A1B8A1844B31A6B6A261B62A146B45A10B7A16B1A321B30A18B44A4",
     "84B28A228B30A2B1A495B7A1B4A1B2A1B15A1B197A59B68A7B1A1204B4A1B27A1B2A1B1A2B1A1B10A1B4A1B1A",
     "1B1A6B1A4B1A1B1A1B1A1B3A1B2A1B1A2B1A1B1A1B1A1B1A1B1A1B2A1B1A2B4A1B7A1B4A1B4A1B1A1B10A1B17",
     "A5B3A1B5A1B17A4420B42720A32B4154A6B222A2B5762A14B7473A15B622A2466B542A1506B4939A5B4192"]

def ideographic : Property where
  names := ["ideographic", "ideo"]
  runs := .ofLines
    ["A12294B2A25B9A14B3A965B6592A64B20992A22784B366A2B106A29962B1A27B6136A8B1238A41B10A9319B39",
     "6A19716B42720A32B4154A6B222A2B5762A14B7473A15B622A2466B542A1506B4939A5B4192"]

def joinControl : Property where
  names := ["joincontrol", "joinc"]
  runs := .ofLines ["A8204B2"]

def logicalOrderException : Property where
  names := ["logicalorderexception", "loe"]
  runs := .ofLines ["A3648B5A123B5A2800B3A2B1A37114B2A2B1A1B2"]

def lowercase : Property where
  names := ["lowercase", "lower"]
  runs := .ofLines
    ["A97B26A47B1A10B1A4B1A36B24A1B8A1B1A1B1A1B1A1B1A1B1A1B1A1B1A1B1A1B1A1B1A1B1A1B1A1B1A1B1A1B",
     "1A1B1A1B1A1B1A1B1A1B1A1B1A1B1A1B1A1B1A1B1A1B1A1B1A1B2A1B1A1B1A1B1A1B1A1B1A1B1A1B1A1B2A1B1",
     "A1B1A1B1A1B1A1B1A1B1A1B1A1B1A1B1A1B1A1B1A1B1A1B1A1B1A1B1A1B1A1B1A1B1A1B1A1B1A1B1A1B1A1B1A",
     "2B1A1B1A1B3A2B1A1B1A2B1A3B2A4B1A2B1A3B3A2B1A2B1A1B1A1B1A2B1A1B2A1B1A2B1A3B1A1B1A2B2A2B3A6",
     "B1A2B1A2B1A1B1A1B1A1B1A1B1A1B1A1B1A1B1A1B2A1B1A1B1A1B1A1B1A1B1A1B1A1B1A1B1A1B2A2B1A1B1A3B",
     "1A1B1A1B1A1B1A1B1A1B1A1B1A1B1A1B1A1B1A1B1A1B1A1B1A1B1A1B1A1B1A1B1A1B1A1B1A1B1A1B1A1B1A1B1",
     "A1B1A1B1A1B1A1B1A1B1A1B1A1B7A2B1A2B2A1B1A4B1A1B1A1B1A1B1A1B69A2B35A7B2A30B5A96B1A43B1A1B1",
     "A3B1A2B4A18B1A27B35A1B2A3B3A1B1A1B1A1B1A1B1A1B1A1B1A1B1A1B1A1B1A1B1A1B1A1B5A1B1A2B1A2B2A5",
     "1B48A1B1A1B1A1B1A1B1A1B1A1B1A1B1A1B1A1B1A1B1A1B1A1B1A1B1A1B1A1B1A1B1A1B1A9B1A1B1A1B1A1B1A",
     "1B1A1B1A1B1A1B1A1B1A1B1A1B1A1B1A1B1A1B1A1B1A1B1A1B1A1B1A1B1A1B1A1B1A1B1A1B1A1B1A1B1A1B1A1",
     "B1A2B1A1B1A1B1A1B1A1B1A1B1A1B2A1B1A1B1A1B1A1B1A1B1A1B1A1B1A1B1A1B1A1B1A1B1A1B1A1B1A1B1A1B",
     "1A1B1A1B1A1B1A1B1A1B1A1B1A1B1A1B1A1B1A1B1A1B1A1B1A1B1A1B1A1B1A1B1A1B1A1B1A1B1A1B1A1B1A1B1",
     "A1B1A1B1A1B1A1B1A1B1A1B1A1B1A1B1A1B1A1B1A1B1A48B41A2887B43A1B4A760B6A2178B9A1B1A117B192A6",
     "5B1A1B1A1B1A1B1A1B1A1B1A1B1A1B1A1B1A1B1A1B1A1B1A1B1A1B1A1B1A1B1A1B1A1B1A1B1A1B1A1B1A1B1A1",
     "B1A1B1A1B1A1B1A1B1A1B1A1B1A1B1A1B1A1B1A1B1A1B1A1B1A1B1A1B1A1B1A1B1A1B1A1B1A1B1A1B1A1B1A1B",
     "1A1B1A1B1A1B1A1B1A1B1A1B1A1B1A1B1A1B1A1B1A1B1A1B1A1B1A1B1A1B1A1B1A1B1A1B1A1B1A1B1A1B1A1B1",
     "A1B1A1B1A1B1A1B1A1B1A1B1A1B1A1B9A1B1A1B1A1B1A1B1A1B1A1B1A1B1A1B1A1B1A1B1A1B1A1B1A1B1A1B1A",
     "1B1A1B1A1B1A1B1A1B1A1B1A1B1A1B1A1B1A1B1A1B1A1B1A1B1A1B1A1B1A1B1A1B1A1B1A1B1A1B1A1B1A1B1A1",
     "B1A1B1A1B1A1B1A1B1A1B1A1B1A1B1A1B1A1B1A1B1A1B1A1B9A8B6A10B8A8B8A8B6A10B8A8B8A8B14A2B8A8B8",
     "A8B8A8B5A1B2A6B1A3B3A1B2A8B4A2B2A8B8A10B3A1B2A121B1A13B1A16B13A109B1A3B2A3B1A27B1A4B1A4B1",
     "A2B2A8B4A4B1A33B16A4B1A843B26A1862B48A1B1A3B2A1B1A1B1A1B1A4B1A1B2A1B8A3B1A1B1A1B1A1B1A1B1",
     "A1B1A1B1A1B1A1B1A1B1A1B1A1B1A1B1A1B1A1B1A1B1A1B1A1B1A1B1A1B1A1B1A1B1A1B1A1B1A1B1A1B1A1B1A",
     "1B1A1B1A1B1A1B1A1B1A1B1A1B1A1B1A1B1A1B1A1B1A1B1A1B1A1B1A1B1A1B1A1B1A1B1A1B1A1B1A1B1A1B1A1",
     "B2A7B1A1B1A4B1A12B38A1B1A5B1A30995B1A1B1A1B1A1B1A1B1A1B1A1B1A1B1A1B1A1B1A1B1A1B1A1B1A1B1A",
     "1B1A1B1A1B1A1B1A1B1A1B1A1B1A1B1A1B1A19B1A1B1A1B1A1B1A1B1A1B1A1B1A1B1A1B1A1B1A1B1A1B1A1B1A",
     "1B3A133B1A1B1A1B1A1B1A1B1A1B1A1B3A1B1A1B1A1B1A1B1A1B1A1B1A1B1A1B1A1B1A1B1A1B1A1B1A1B1A1B1",
     "A1B1A1B1A1B1A1B1A1B1A1B1A1B1A1B1A1B1A1B1A1B1A1B1A1B1A1B1A1B1A1B1A1B10A1B1A1B1A2B1A1B1A1B1",
     "A1B1A1B1A4B1A1B1A2B1A1B3A1B1A1B1A1B1A1B1A1B1A1B1A1B1A1B1A1B1A1B1A5B1A5B1A1B1A1B1A1B1A1B1A",
     "1B1A1B1A1B1A4B1A1B1A2B1A3B1A1B1A1B1A1B1A1B1A1B1A22B3A1B1A1B3A821B43A1B14A6B80A20288B7A12B",
     "5A1065B26A1229B40A136B36A155B11A1B15A1B7A1B2A451B1A2B3A1B42A1B9A1285B51A125B22A2874B32A21",
     "888B32A26010B26A26B7A1B18A26B26A26B4A1B1A1B7A1B11A26B26A26B26A26B26A26B26A26B26A26B26A26B",
     "26A26B26A26B28A28B25A1B6A26B25A1B6A26B25A1B6A26B25A1B6A26B25A1B6A1B1A1844B10A1B20A6B6A261",
     "B62A2228B34"]

def math : Property where
  names := ["math"]
  runs := .ofLines
    ["A43B1A16B3A31B1A29B1A1B1A45B1A4B1A37B1A31B1A728B3A2B1A26B2A2B3A527B3A6669B1A27B3A11B1A3B1",
     "A13B1A14B4A21B5A11B5A65B13A4B1A3B2A4B5A18B1A4B1A2B10A1B1A2B6A6B1A3B2A2B2A1B3A1B6A3B14A1B1",
     "A68B24A1B6A1B2A4B2A4B32A1B1A6B2A14B268A8B4A20B2A90B1A30B27A1B1A24B1A11B7A445B2A12B10A4B6A",
     "4B2A2B2A3B5A14B1A1B1A2B6A11B8A5B2A57B1A1B1A29B4A9B3A336B64A256B512A48B21A2B6A53212B1A823B",
     "6A1B1A162B1A16B3A29B1A1B1A29B1A1B1A131B1A6B4A3489B2A50800B85A1B71A1B2A2B1A2B2A2B4A1B12A1B",
     "1A1B7A1B65A1B4A2B8A1B7A1B28A1B4A1B5A1B1A3B7A1B340A2B292A2B50A5632B4A1B27A1B2A1B1A2B1A1B10",
     "A1B4A1B1A1B1A6B1A4B1A1B1A1B1A1B3A1B2A1B1A2B1A1B1A1B1A1B1A1B1A1B2A1B1A2B4A1B7A1B4A1B4A1B1A",
     "1B10A1B17A5B3A1B5A1B17A52B2"]

def noncharacterCodePoint : Property where
  names := ["noncharactercodepoint", "nchar"]
  runs := .ofLines
    ["A64976B32A526B2A65534B2A65534B2A65534B2A65534B2A65534B2A65534B2A65534B2A65534B2A65534B2A6",
     "5534B2A65534B2A65534B2A65534B2A65534B2A65534B2A65534B2"]

def patternSyntax : Property where
  names := ["patternsyntax", "patsyn"]
  runs := .ofLines
    ["A33B15A10B7A26B4A1B1A26B4A34B7A1B1A1B2A1B1A1B2A4B1A4B1A3B1A23B1A31B1A7960B24A8B15A2B19A1B",
     "10A305B720A160B630A30B1026A1B105A512B128A385B3A4B25A15B1A52493B2A261B2"]

def patternWhiteSpace : Property where
  names := ["patternwhitespace", "patws"]
  runs := .ofLines ["A9B5A18B1A100B1A8072B2A24B2"]

def quotationMark : Property where
  names := ["quotationmark", "qmark"]
  runs := .ofLines
    ["A34B1A4B1A131B1A15B1A8028B8A25B2A3591B1A457B4A13B3A52769B4A189B1A4B1A90B2"]

def radical : Property where
  names := ["radical"]
  runs := .ofLines ["A11904B26A1B89A12B214"]

def regionalIndicator : Property where
  names := ["regionalindicator", "ri"]
  runs := .ofLines ["A127462B26"]

def sentenceTerminal : Property where
  names := ["sentenceterminal", "sterm"]
  runs := .ofLines
    ["A33B1A12B1A16B1A1353B1A147B3A180B1A43B3A246B1A61B1A1B1A3B2A293B2A1764B2A790B1A4B2A773B1A1",
     "98B2A157B2A45B1A5B1A314B2A354B4A162B2A10B2A2B2A29B3A187B2A65B2A932B1A23B2A9B3A3247B3A306B",
     "1A13B1A22B2A429B1A29948B1A270B2A227B1A3B1A382B2A86B2A95B1A152B2A147B3A144B2A249B1A21030B1",
     "A2B2A59B1A3B2A169B1A12B1A16B1A65B1A2804B2A1277B5A44B4A189B2A117B4A127B3A129B2A6B1A16B2A88",
     "B2A1B2A108B1A298B2A117B2A373B2A5B15A105B2A249B3A517B1A1B1A251B2A87B2A420B2A692B2A74B2A192",
     "41B2A133B1A65B2A11B1A553B2A296B1A19974B1A7656B1"]

def softDotted : Property where
  names := ["softdotted", "sd"]
  runs := .ofLines
    ["A105B2A196B1A281B1A30B1A52B1A20B1A320B1A98B1A1B1A6409B1A51B1A13B1A3B1A132B1A157B1A421B1A2",
     "14B2A2866B1A108453B2A50B2A50B2A50B2A50B2A50B2A50B2A50B2A50B2A50B2A50B2A50B2A50B2A2182B1A3",
     "05B2A26B1"]

def terminalPunctuation : Property where
  names := ["terminalpunctuation", "term"]
  runs := .ofLines
    ["A33B1A10B1A1B1A11B2A3B1A830B1A8B1A513B1A57B1A72B1A14B1A1B3A180B1A43B11A1B1A235B2A54B6A1B8",
     "A31B1A261B2A1268B2A172B1A4B6A311B2A789B8A773B1A124B3A71B2A157B3A3B1A39B4A2B2A314B2A354B4A",
     "162B2A10B2A1B3A29B3A187B5A62B2A932B1A23B2A9B3A3247B3A306B1A13B1A4B1A10B1A1B2A3B2A428B2A29",
     "947B2A269B3A227B5A382B2A86B2A95B1A151B3A147B3A127B1A16B2A249B1A21030B1A2B2A57B3A1B4A169B1",
     "A10B1A1B1A11B2A3B1A65B1A2B1A1082B1A48B1A1158B1A199B1A310B2A152B6A68B6A89B4A952B5A44B4A189",
     "B7A112B4A127B3A129B2A6B1A16B2A88B5A108B1A298B2A117B3A12B2A358B4A3B15A105B2A249B3A517B1A1B",
     "1A251B2A87B2A4B2A414B3A45B1A645B2A74B2A1323B5A17913B2A133B1A65B3A10B1A553B2A295B2A19974B1",
     "A7655B4"]

def unifiedIdeograph : Property where
  names := ["unifiedideograph", "uideo"]
  runs := .ofLines
    ["A13312B6592A64B20992A23054B2A1B1A1B2A10B1A1B1A1B2A2B3A67030B42720A32B4154A6B222A2B5762A14",
     "B7473A15B622A4514B4939A5B4192"]

def uppercase : Property where
  names := ["uppercase", "upper"]
  runs := .ofLines
    ["A65B26A101B23A1B7A33B1A1B1A1B1A1B1A1B1A1B1A1B1A1B1A1B1A1B1A1B1A1B1A1B1A1B1A1B1A1B1A1B1A1B",
     "1A1B1A1B1A1B1A1B1A1B1A1B1A1B1A1B1A1B1A1B1A2B1A1B1A1B1A1B1A1B1A1B1A1B1A1B1A2B1A1B1A1B1A1B1",
     "A1B1A1B1A1B1A1B1A1B1A1B1A1B1A1B1A1B1A1B1A1B1A1B1A1B1A1B1A1B1A1B1A1B1A1B1A1B1A1B2A1B1A1B1A",
     "3B2A1B1A1B2A1B3A2B4A1B2A1B3A3B2A1B2A1B1A1B1A1B2A1B1A2B1A1B2A1B3A1B1A1B2A3B1A7B1A2B1A2B1A2",
     "B1A1B1A1B1A1B1A1B1A1B1A1B1A1B1A2B1A1B1A1B1A1B1A1B1A1B1A1B1A1B1A1B1A2B1A2B1A1B3A1B1A1B1A1B",
     "1A1B1A1B1A1B1A1B1A1B1A1B1A1B1A1B1A1B1A1B1A1B1A1B1A1B1A1B1A1B1A1B1A1B1A1B1A1B1A1B1A1B1A1B1",
     "A1B1A1B1A1B1A1B1A7B2A1B2A2B1A1B4A1B1A1B1A1B1A1B1A289B1A1B1A3B1A8B1A6B1A1B3A1B1A1B2A1B17A1",
     "B9A35B1A2B3A3B1A1B1A1B1A1B1A1B1A1B1A1B1A1B1A1B1A1B1A1B1A1B1A5B1A2B1A1B2A2B51A48B1A1B1A1B1",
     "A1B1A1B1A1B1A1B1A1B1A1B1A1B1A1B1A1B1A1B1A1B1A1B1A1B1A1B1A9B1A1B1A1B1A1B1A1B1A1B1A1B1A1B1A",
     "1B1A1B1A1B1A1B1A1B1A1B1A1B1A1B1A1B1A1B1A1B1A1B1A1B1A1B1A1B1A1B1A1B1A1B1A1B1A1B2A1B1A1B1A1",
     "B1A1B1A1B1A1B1A2B1A1B1A1B1A1B1A1B1A1B1A1B1A1B1A1B1A1B1A1B1A1B1A1B1A1B1A1B1A1B1A1B1A1B1A1B",
     "1A1B1A1B1A1B1A1B1A1B1A1B1A1B1A1B1A1B1A1B1A1B1A1B1A1B1A1B1A1B1A1B1A1B1A1B1A1B1A1B1A1B1A1B1",
     "A1B1A1B1A1B1A1B1A1B1A1B1A1B1A2B38A2889B38A1B1A5B1A722B86A2195B1A6B43A2B3A320B1A1B1A1B1A1B",
     "1A1B1A1B1A1B1A1B1A1B1A1B1A1B1A1B1A1B1A1B1A1B1A1B1A1B1A1B1A1B1A1B1A1B1A1B1A1B1A1B1A1B1A1B1",
     "A1B1A1B1A1B1A1B1A1B1A1B1A1B1A1B1A1B1A1B1A1B1A1B1A1B1A1B1A1B1A1B1A1B1A1B1A1B1A1B1A1B1A1B1A",
     "1B1A1B1A1B1A1B1A1B1A1B1A1B1A1B1A1B1A1B1A1B1A1B1A1B1A1B1A1B1A1B1A1B1A1B1A1B1A1B1A1B1A1B1A1",
     "B1A1B1A1B1A1B1A1B1A9B1A1B1A1B1A1B1A1B1A1B1A1B1A1B1A1B1A1B1A1B1A1B1A1B1A1B1A1B1A1B1A1B1A1B",
     "1A1B1A1B1A1B1A1B1A1B1A1B1A1B1A1B1A1B1A1B1A1B1A1B1A1B1A1B1A1B1A1B1A1B1A1B1A1B1A1B1A1B1A1B1",
     "A1B1A1B1A1B1A1B1A1B1A1B1A1B1A1B1A1B1A9B8A8B6A10B8A8B8A8B6A11B1A1B1A1B1A1B1A8B8A72B4A12B4A",
     "12B4A12B5A11B4A262B1A4B1A3B3A2B3A2B1A3B5A6B1A1B1A1B1A1B4A2B4A10B2A5B1A26B16A19B1A818B26A1",
     "840B48A48B1A1B3A2B1A1B1A1B1A1B4A1B1A2B1A8B3A1B1A1B1A1B1A1B1A1B1A1B1A1B1A1B1A1B1A1B1A1B1A1",
     "B1A1B1A1B1A1B1A1B1A1B1A1B1A1B1A1B1A1B1A1B1A1B1A1B1A1B1A1B1A1B1A1B1A1B1A1B1A1B1A1B1A1B1A1B",
     "1A1B1A1B1A1B1A1B1A1B1A1B1A1B1A1B1A1B1A1B1A1B1A1B1A1B1A1B1A1B1A8B1A1B1A4B1A31053B1A1B1A1B1",
     "A1B1A1B1A1B1A1B1A1B1A1B1A1B1A1B1A1B1A1B1A1B1A1B1A1B1A1B1A1B1A1B1A1B1A1B1A1B1A1B1A19B1A1B1",
     "A1B1A1B1A1B1A1B1A1B1A1B1A1B1A1B1A1B1A1B1A1B1A1B1A135B1A1B1A1B1A1B1A1B1A1B1A1B1A3B1A1B1A1B",
     "1A1B1A1B1A1B1A1B1A1B1A1B1A1B1A1B1A1B1A1B1A1B1A1B1A1B1A1B1A1B1A1B1A1B1A1B1A1B1A1B1A1B1A1B1",
     "A1B1A1B1A1B1A1B1A1B1A1B1A10B1A1B1A1B2A1B1A1B1A1B1A1B1A4B1A1B1A2B1A1B1A3B1A1B1A1B1A1B1A1B1",
     "A1B1A1B1A1B1A1B1A1B1A1B5A1B5A1B1A1B1A1B1A1B1A1B1A1B1A1B1A1B4A1B1A1B2A3B1A5B1A1B1A1B1A1B1A",
     "24B1A22315B26A1221B40A136B36A156B11A1B15A1B7A1B2A1770B51A157B22A2874B32A21888B32A26016B26",
     "A26B26A26B26A26B1A1B2A2B1A2B2A2B4A1B8A26B26A26B2A1B4A2B8A1B7A27B2A1B4A1B5A1B1A3B7A27B26A2",
     "6B26A26B26A26B26A26B26A26B26A30B25A33B25A33B25A33B25A33B25A33B1A4405B34A2062B26A6B26A6B26"]

def variationSelector : Property where
  names := ["variationselector", "vs"]
  runs := .ofLines ["A6155B3A1B1A58864B16A852720B240"]

def whiteSpace : Property where
  names := ["whitespace", "space", "wspace"]
  runs := .ofLines ["A9B5A18B1A100B1A26B1A5599B1A2431B11A29B2A5B1A47B1A4000B1"]

def xidContinue : Property where
  names := ["xidcontinue", "xidc"]
  runs := .ofLines
    ["A48B10A7B26A4B1A1B26A47B1A10B1A1B1A2B1A5B23A1B31A1B458A4B12A14B5A7B1A1B1A17B117A1B2A3B3A1",
     "B1A6B5A1B1A1B20A1B83A1B139A1B5A2B166A1B38A2B1A6B41A8B45A1B1A1B2A1B2A1B1A8B27A4B4A29B11A5B",
     "74A4B102A1B8A2B10A1B19A2B1A16B59A2B101A14B54A4B1A2B1A2B46A18B28A4B11A5B24A1B6A8B75A1B129A",
     "2B10A1B19A1B8A2B2A2B22A1B7A1B1A3B4A2B9A2B2A2B4A8B1A4B2A1B5A2B12A10B1A1B1A2B3A1B6A4B2A2B22",
     "A1B7A1B2A1B2A1B2A2B1A1B5A4B2A2B3A3B1A7B4A1B1A7B16A11B3A1B9A1B3A1B22A1B7A1B2A1B5A2B10A1B3A",
     "1B3A2B1A15B4A2B10A9B7A1B3A1B8A2B2A2B22A1B7A1B2A1B5A2B9A2B2A2B3A7B3A4B2A1B5A2B10A1B1A16B2A",
     "1B6A3B3A1B4A3B2A1B1A1B2A3B2A3B3A3B12A4B5A3B3A1B4A2B1A6B1A14B10A16B13A1B3A1B23A1B16A2B9A1B",
     "3A1B4A7B2A1B3A2B1A2B4A2B10A16B4A1B8A1B3A1B23A1B10A1B5A2B9A1B3A1B4A7B2A6B2A1B4A2B10A1B3A12",
     "B13A1B3A1B51A1B3A1B5A5B4A7B5A2B10A10B6A1B3A1B18A3B24A1B9A1B1A2B7A3B1A4B6A1B1A1B8A6B10A2B2",
     "A13B58A5B15A1B10A39B2A1B1A1B5A1B24A1B1A1B23A2B5A1B1A1B7A1B10A2B4A32B1A23B2A6B10A11B1A1B1A",
     "1B1A4B10A1B36A4B20A1B18A1B36A9B1A57B74A6B78A2B38A1B1A5B1A2B43A1B333A1B4A2B7A1B1A1B4A2B41A",
     "1B4A2B33A1B4A2B7A1B1A1B4A2B15A1B57A1B4A2B67A2B3A9B9A14B16A16B86A2B6A3B620A2B17A1B26A5B75A",
     "3B11A7B22A9B22A11B20A12B13A1B3A1B2A12B84A3B1A4B2A2B10A33B3A1B11A6B89A7B43A5B70A10B31A1B12",
     "A4B12A10B40A2B5A11B44A4B26A6B11A37B28A4B63A1B29A2B11A6B10A13B1A8B14A1B16A49B77A3B10A17B9A",
     "12B116A12B56A8B10A3B49A2B11A5B43A2B3A16B3A1B39A5B534A2B6A2B38A2B6A2B8A1B1A1B1A1B1A1B31A2B",
     "53A1B7A1B1A3B3A1B7A3B4A2B6A4B13A5B3A1B7A15B2A49B2A19B1A28B1A13B1A16B13A51B13A4B1A3B12A17B",
     "1A4B1A2B10A1B1A2B6A6B1A1B1A1B1A1B16A2B4A5B5A4B1A17B41A2679B229A6B9A12B38A1B1A5B1A2B56A7B1",
     "A15B24A9B7A1B7A1B7A1B7A1B7A1B7A1B7A1B7A1B32A517B3A25B15A1B5A2B5A4B86A2B2A2B3A1B95A5B43A1B",
     "94A17B32A48B16A512B6592A64B22157A67B46A2B269A3B28A20B48A4B10A1B115A37B9A2B103A2B67A2B2A1B",
     "1A1B8A21B54A4B1A19B52A12B70A10B10A6B24A3B1A1B49A2B36A12B29A3B65A14B11A6B31A1B55A9B14A2B10",
     "A6B23A3B73A24B3A2B16A2B5A10B6A2B6A2B6A9B7A1B7A1B43A1B14A6B123A1B2A2B10A6B11172A12B23A4B49",
     "A8452B366A2B106A38B7A12B5A5B12A1B13A1B5A1B1A1B2A1B2A1B108A33B139A6B218A18B64A2B54A40B10A6",
     "B16A16B16A3B2A24B3A33B1A1B1A3B1A1B1A1B1A1B1A1B126A19B10A7B26A4B1A1B26A10B90A3B6A2B6A2B6A2",
     "B3A35B12A1B26A1B19A1B2A1B15A2B14A34B123A69B53A136B1A130B29A3B49A15B1A31B32A13B30A5B43A5B3",
     "0A2B36A4B8A1B5A42B158A2B10A6B36A4B36A4B40A8B52A12B11A1B15A1B7A1B2A1B11A1B15A1B7A1B2A3B52A",
     "12B311A9B22A10B8A24B6A1B42A1B9A69B6A2B1A1B44A1B2A3B1A2B23A10B23A9B31A65B19A1B2A10B22A10B2",
     "6A70B56A6B2A64B4A1B2A5B8A1B3A1B29A2B3A4B1A32B29A3B29A35B8A1B30A25B54A10B22A10B19A13B18A11",
     "0B73A55B51A13B51A13B40A8B10A6B38A3B5A1B23A250B42A1B2A3B2A16B3A55B33A10B1A8B33A31B22A42B21",
     "A27B23A9B71A31B16A9B60A7B1A13B25A7B10A6B53A1B10A4B4A8B36A2B1A9B69A4B4A1B13A1B1A35B18A1B37",
     "A6B4A62B7A1B1A1B4A1B15A1B10A7B59A5B10A6B4A1B8A2B2A2B22A1B7A1B2A1B5A1B10A2B2A2B3A2B1A6B1A5",
     "B7A2B7A3B5A11B10A1B1A2B1A1B38A1B10A1B1A2B1A1B4A1B8A13B2A29B75A5B10A4B4A30B70A1B1A8B10A166",
     "B54A2B9A23B6A34B65A3B1A11B10A38B57A7B10A6B20A28B27A2B15A4B10A6B7A185B59A101B74A21B8A2B1A2",
     "B8A1B2A1B30A1B2A2B9A12B10A70B8A2B46A2B8A1B2A27B63A8B1A8B74A3B1A18B73A199B33A15B10A6B9A1B4",
     "5A1B9A15B10A24B30A2B22A1B14A73B7A1B2A1B44A3B1A1B2A1B9A8B10A6B6A1B2A1B37A1B2A1B6A7B10A310B",
     "23A9B17A1B41A3B5A13B11A85B1A79B922A102B111A17B196A2636B97A15B1072A16B22A10B3995A5B583A684",
     "1B58A1734B569A7B31A1B10A6B79A1B10A6B30A2B5A11B55A9B4A12B10A9B21A5B19A432B45A3B10A198B64A1",
     "28B75A4B57A7B17A64B2A1B2A11B2A14B6136A8B1238A41B10A8935B4A1B7A1B2A1B291A15B1A29B3A2B1A14B",
     "4A8B396A2308B107A5B13A3B9A7B10A3B2A4177B10A518B46A2B23A542B5A3B6A8B8A2B7A30B4A148B3A443B8",
     "5A1B71A1B2A2B1A2B2A2B4A1B12A1B1A1B7A1B65A1B4A2B8A1B7A1B28A1B4A1B5A1B1A3B7A1B340A2B25A1B25",
     "A1B31A1B25A1B31A1B25A1B31A1B25A1B31A1B25A1B8A2B50A512B55A4B50A8B1A14B1A22B5A1B15A1104B31A",
     "6B6A213B7A1B17A2B7A1B2A1B5A5B62A33B1A112B45A3B14A2B10A4B1A321B31A17B58A470B42A214B43A485B",
     "7A1B4A1B2A1B15A1B197A11B7A41B76A4B10A1190B4A1B27A1B2A1B1A2B1A1B10A1B4A1B1A1B1A6B1A4B1A1B1",
     "A1B1A1B3A1B2A1B1A2B1A1B1A1B1A1B1A1B1A1B2A1B1A2B4A1B7A1B4A1B4A1B1A1B10A1B17A5B3A1B5A1B17A3",
     "380B10A1030B42720A32B4154A6B222A2B5762A14B7473A15B622A2466B542A1506B4939A5B4192A712016B24",
     "0"]

def xidStart : Property where
  names := ["xidstart", "xids"]
  runs := .ofLines
    ["A65B26A6B26A47B1A10B1A4B1A5B23A1B31A1B458A4B12A14B5A7B1A1B1A129B5A1B2A3B3A1B1A6B1A1B3A1B1",
     "A1B20A1B83A1B139A8B166A1B38A2B1A6B41A71B27A4B4A45B43A35B2A1B99A1B1A15B2A7B2A10B3A2B1A16B1",
     "A1B30A29B89A11B1A24B33A9B2A4B1A5B22A4B1A9B1A3B1A23B25A7B11A5B24A1B6A17B42A58B54A3B1A18B1A",
     "7B10A15B16A4B8A2B2A2B22A1B7A1B1A3B4A3B1A16B1A13B2A1B3A14B2A10B1A8B6A4B2A2B22A1B7A1B2A1B2A",
     "1B2A31B4A1B1A19B3A16B9A1B3A1B22A1B7A1B2A1B5A3B1A18B1A15B2A23B1A11B8A2B2A2B22A1B7A1B2A1B5A",
     "3B1A30B2A1B3A15B1A17B1A1B6A3B3A1B4A3B2A1B1A1B2A3B2A3B3A3B12A22B1A52B8A1B3A1B23A1B16A3B1A2",
     "6B3A2B1A2B2A30B1A4B8A1B3A1B23A1B10A1B5A3B1A31B2A1B2A15B2A17B9A1B3A1B41A2B1A16B1A5B3A8B3A2",
     "4B6A5B18A3B24A1B9A1B1A2B7A58B48A1B1A13B7A58B2A1B1A1B5A1B24A1B1A1B10A1B1A10B1A2B5A1B1A21B4",
     "A32B1A63B8A1B36A27B5A115B43A20B1A16B6A4B4A3B1A3B2A7B3A4B13A12B1A17B38A1B1A5B1A2B43A1B333A",
     "1B4A2B7A1B1A1B4A2B41A1B4A2B33A1B4A2B7A1B1A1B4A2B15A1B57A1B4A2B67A37B16A16B86A2B6A3B620A2B",
     "17A1B26A5B75A3B11A7B18A13B19A14B18A14B13A1B3A15B52A35B1A4B1A67B89A7B41A1B1A5B70A10B31A49B",
     "30A2B5A11B44A4B26A54B23A9B53A82B1A93B47A17B8A54B30A13B2A10B44A26B36A41B3A10B36A2B11A5B43A",
     "2B3A41B4A1B6A1B2A3B1A5B192A64B278A2B6A2B38A2B6A2B8A1B1A1B1A1B1A1B31A2B53A1B7A1B1A3B3A1B7A",
     "3B4A2B6A4B13A5B3A1B7A116B1A13B1A16B13A101B1A4B1A2B10A1B1A2B6A6B1A1B1A1B1A1B16A2B4A5B5A4B1",
     "A17B41A2679B229A6B4A3B2A12B38A1B1A5B1A2B56A7B1A16B23A9B7A1B7A1B7A1B7A1B7A1B7A1B7A1B7A550B",
     "3A25B9A7B5A2B5A4B86A6B3A1B90A1B4A5B43A1B94A17B32A48B16A512B6592A64B22157A67B46A2B269A3B16",
     "A10B2A20B47A16B31A2B80A39B9A2B103A2B67A2B2A1B1A1B8A21B16A1B3A1B4A1B23A29B52A14B50A62B6A3B",
     "1A1B2A11B28A10B23A25B29A7B47A28B1A16B5A1B10A10B5A1B41A23B3A1B8A20B23A3B1A3B50A1B1A3B2A2B5",
     "A2B1A1B1A24B3A2B11A7B3A12B6A2B6A2B6A9B7A1B7A1B43A1B14A6B115A29B11172A12B23A4B49A8452B366A",
     "2B106A38B7A12B5A5B1A1B10A1B13A1B5A1B1A1B2A1B2A1B108A33B139A6B218A18B64A2B54A40B10A119B1A1",
     "B1A3B1A1B1A1B1A1B1A1B126A36B26A6B26A11B56A2B31A3B6A2B6A2B6A2B3A35B12A1B26A1B19A1B2A1B15A2",
     "B14A34B123A69B53A267B29A3B49A47B32A13B30A5B38A10B30A2B36A4B8A1B5A42B158A18B36A4B36A4B40A8",
     "B52A12B11A1B15A1B7A1B2A1B11A1B15A1B7A1B2A3B52A12B311A9B22A10B8A24B6A1B42A1B9A69B6A2B1A1B4",
     "4A1B2A3B1A2B23A10B23A9B31A65B19A1B2A10B22A10B26A70B56A6B2A64B1A15B4A1B3A1B29A42B29A3B29A3",
     "5B8A1B28A27B54A10B22A10B19A13B18A110B73A55B51A13B51A13B36A38B28A9B23A250B42A6B2A16B3A59B2",
     "9A10B1A8B22A42B18A46B21A27B23A12B53A57B2A2B1A13B45A32B25A26B36A29B1A2B1A8B35A3B1A12B48A14",
     "B4A21B1A1B1A35B18A1B25A19B2A63B7A1B1A1B4A1B15A1B10A7B47A38B8A2B2A2B22A1B7A1B2A1B5A3B1A18B",
     "1A12B5A30B10A1B1A2B1A1B38A1B1A25B1A1B1A44B53A18B4A20B3A30B48A20B2A1B1A184B47A41B4A36B48A2",
     "0B1A59B43A13B1A71B27A37B7A185B44A116B64A31B8A2B1A2B8A1B2A1B24A15B1A1B1A94B8A2B39A16B1A1B1",
     "A28B1A10B40A7B1A21B1A11B46A19B1A18B73A199B33A31B9A1B37A17B1A49B30A112B7A1B2A1B38A21B1A25B",
     "6A1B2A1B32A14B1A327B19A15B1A1B13A1B34A124B1A79B922A102B111A17B196A2636B97A15B1072A17B6A25",
     "B3995A5B583A6841B30A1762B569A7B31A17B79A17B30A18B48A16B4A31B21A5B19A432B45A211B64A128B75A",
     "5B1A66B13A64B2A1B1A28B6136A8B1238A41B10A8935B4A1B7A1B2A1B291A15B1A29B3A2B1A14B4A8B396A230",
     "8B107A5B13A3B9A7B10A5990B85A1B71A1B2A2B1A2B2A2B4A1B12A1B1A1B7A1B65A1B4A2B8A1B7A1B28A1B4A1",
     "B5A1B1A3B7A1B340A2B25A1B25A1B31A1B25A1B31A1B25A1B31A1B25A1B31A1B25A1B8A1844B31A6B6A261B62",
     "A146B45A10B7A16B1A321B30A18B44A484B28A228B30A2B1A495B7A1B4A1B2A1B15A1B197A59B68A7B1A1204B",
     "4A1B27A1B2A1B1A2B1A1B10A1B4A1B1A1B1A6B1A4B1A1B1A1B1A1B3A1B2A1B1A2B1A1B1A1B1A1B1A1B1A1B2A1",
     "B1A2B4A1B7A1B4A1B4A1B1A1B10A1B17A5B3A1B5A1B17A4420B42720A32B4154A6B222A2B5762A14B7473A15B",
     "622A2466B542A1506B4939A5B4192"]

def all : List Property :=
  [asciiHexDigit, alphabetic, bidiControl, bidiMirrored, caseIgnorable, cased,
   changesWhenCasefolded, changesWhenCasemapped, changesWhenLowercased, changesWhenTitlecased,
   changesWhenUppercased, dash, defaultIgnorableCodePoint, deprecated, diacritic, emoji,
   emojiModifierBase, emojiComponent, emojiModifier, emojiPresentation, extendedPictographic,
   extender, graphemeBase, graphemeExtend, hexDigit, idsBinaryOperator, idsTrinaryOperator,
   idContinue, idStart, ideographic, joinControl, logicalOrderException, lowercase, math,
   noncharacterCodePoint, patternSyntax, patternWhiteSpace, quotationMark, radical,
   regionalIndicator, sentenceTerminal, softDotted, terminalPunctuation, unifiedIdeograph,
   uppercase, variationSelector, whiteSpace, xidContinue, xidStart]

def byName? (name : String) : Option Property := all.find? (·.names.contains name)

end Property

end Warrant.Unicode

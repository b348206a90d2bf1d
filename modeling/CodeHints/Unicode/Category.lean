import CodeHints.Unicode.Runs

/-!
# General categories

The general category of every code point (Unicode 15.0), and the groups of categories that go by
a name of their own.
-/

namespace CodeHints.Unicode

/-- The general category of a code point. -/
inductive Category where
  | uppercaseLetter
  | lowercaseLetter
  | titlecaseLetter
  | modifierLetter
  | otherLetter
  | nonspacingMark
  | spacingMark
  | enclosingMark
  | decimalNumber
  | letterNumber
  | otherNumber
  | connectorPunctuation
  | dashPunctuation
  | openPunctuation
  | closePunctuation
  | initialPunctuation
  | finalPunctuation
  | otherPunctuation
  | mathSymbol
  | currencySymbol
  | modifierSymbol
  | otherSymbol
  | spaceSeparator
  | lineSeparator
  | paragraphSeparator
  | control
  | format
  | surrogate
  | privateUse
  | unassigned
  deriving DecidableEq, Repr

namespace Category

/-- Categories with the label they have in the table and their two-letter name. -/
def labelled : List (Char × String × Category) :=
  [('A', "lu", .uppercaseLetter),
   ('B', "ll", .lowercaseLetter),
   ('C', "lt", .titlecaseLetter),
   ('D', "lm", .modifierLetter),
   ('E', "lo", .otherLetter),
   ('F', "mn", .nonspacingMark),
   ('G', "mc", .spacingMark),
   ('H', "me", .enclosingMark),
   ('I', "nd", .decimalNumber),
   ('J', "nl", .letterNumber),
   ('K', "no", .otherNumber),
   ('L', "pc", .connectorPunctuation),
   ('M', "pd", .dashPunctuation),
   ('N', "ps", .openPunctuation),
   ('O', "pe", .closePunctuation),
   ('P', "pi", .initialPunctuation),
   ('Q', "pf", .finalPunctuation),
   ('R', "po", .otherPunctuation),
   ('S', "sm", .mathSymbol),
   ('T', "sc", .currencySymbol),
   ('U', "sk", .modifierSymbol),
   ('V', "so", .otherSymbol),
   ('W', "zs", .spaceSeparator),
   ('X', "zl", .lineSeparator),
   ('Y', "zp", .paragraphSeparator),
   ('Z', "cc", .control),
   ('!', "cf", .format),
   ('~', "cs", .surrogate),
   ('^', "co", .privateUse),
   ('%', "cn", .unassigned)]

def ofLabel (label : Char) : Category :=
  ((labelled.find? (·.1 == label)).map (·.2.2)).getD .unassigned

/-- Run lengths of the categories, in the order of code points. -/
def table : String :=
  String.join [
    "ZwW1R3T1R3N1O1R1S1R1M1R2IaR2S3R2AqN1R1O1U1L1U1BqN1S1O1S1ZxW1R1T4V1R1U1V1E1P1S1!1V1U1V1S1K2U1",
    "B1R2U1K1E1Q1K3R1AnS1A7BoS1B8A1B1A1B1A1B1A1B1A1B1A1B1A1B1A1B1A1B1A1B1A1B1A1B1A1B1A1B1A1B1A1B1",
    "A1B1A1B1A1B1A1B1A1B1A1B1A1B1A1B1A1B1A1B1A1B1A1B2A1B1A1B1A1B1A1B1A1B1A1B1A1B1A1B2A1B1A1B1A1B1",
    "A1B1A1B1A1B1A1B1A1B1A1B1A1B1A1B1A1B1A1B1A1B1A1B1A1B1A1B1A1B1A1B1A1B1A1B1A1B1A1B1A2B1A1B1A1B3",
    "A2B1A1B1A2B1A3B2A4B1A2B1A3B3A2B1A2B1A1B1A1B1A2B1A1B2A1B1A2B1A3B1A1B1A2B2E1A1B3E4A1C1B1A1C1B1",
    "A1C1B1A1B1A1B1A1B1A1B1A1B1A1B1A1B1A1B2A1B1A1B1A1B1A1B1A1B1A1B1A1B1A1B1A1B2A1C1B1A1B1A3B1A1B1",
    "A1B1A1B1A1B1A1B1A1B1A1B1A1B1A1B1A1B1A1B1A1B1A1B1A1B1A1B1A1B1A1B1A1B1A1B1A1B1A1B1A1B1A1B1A1B1",
    "A1B1A1B1A1B1A1B1A1B7A2B1A2B2A1B1A4B1A1B1A1B1A1B1A1B1xE1BrDiU4DcUeD5U7D1U1D1UhF34A1B1A1B1D1U1",
    "A1B1%2D1B3R1A1%4U2A1R1A3%1A1%1A2B1Ah%1A9BzA1B2A3B3A1B1A1B1A1B1A1B1A1B1A1B1A1B1A1B1A1B1A1B1A1",
    "B1A1B5A1B1S1A1B1A2B2A1fB1cA1B1A1B1A1B1A1B1A1B1A1B1A1B1A1B1A1B1A1B1A1B1A1B1A1B1A1B1A1B1A1B1A1",
    "B1V1F5H2A1B1A1B1A1B1A1B1A1B1A1B1A1B1A1B1A1B1A1B1A1B1A1B1A1B1A1B1A1B1A1B1A1B1A1B1A1B1A1B1A1B1",
    "A1B1A1B1A1B1A1B1A1B1A1B1A2B1A1B1A1B1A1B1A1B1A1B1A1B2A1B1A1B1A1B1A1B1A1B1A1B1A1B1A1B1A1B1A1B1",
    "A1B1A1B1A1B1A1B1A1B1A1B1A1B1A1B1A1B1A1B1A1B1A1B1A1B1A1B1A1B1A1B1A1B1A1B1A1B1A1B1A1B1A1B1A1B1",
    "A1B1A1B1A1B1A1B1A1B1A1B1A1B1A1B1A1B1A1B1A1B1A1B1A1B1A1B1A1B1%1A12%2D1R6B15R1M1%2V2T1%1F19M1F",
    "1R1F2R1F2R1F1%8Er%4E4R2%b!6S3R2T1R2V2FbR1!1R3EwD1EaFlIaR4E2F1E2rR1E1F7!1V1F6D2F2V1F4E2IaE3V2",
    "E1Re%1!1E1F1EuFr%2E2hFbE1%eIaExF9D2V1R3D1%2F1T2EmF4D1F9D1F3D1F5%2Rf%1EpF3%2R1%1Eb%5EoU1E6%1!",
    "2%6F8E15D1Fo!1FwG1E1iF1G1F1E1G3F8G4F1G2E1F7EaF2R2IaR1D1EfF1G2%1E8%2E2%2Em%1E7%1E1%3E4%2F1E1G",
    "3F4%2G2%2G2F1E1%8G1%4E2%1E3F2%2IaE2T2K6V1T1E1R1F1%2F2G1%1E6%4E2%2Em%1E7%1E2%1E2%1E2%2F1%1G3F",
    "2%4F2%2F3%3F1%7E4%1E1%7IaF2E3F1R1%aF2G1%1E9%1E3%1Em%1E7%1E2%1E5%2F1E1G3F5%1F2G1%1G2F1%2E1%fE",
    "2F2%2IaR1T1%7E1F6%1F1G2%1E8%2E2%2Em%1E7%1E2%1E5%2F1E1G1F1G1F4%2G2%2G2F1%7F2G1%4E2%1E3F2%2IaV",
    "1E1K6%aF1E1%1E6%3E3%1E4%3E2%1E1%1E2%3E2%3E3%3Ec%4G2F1G2%3G3%1G3F1%2E1%6G1%eIaK3V6T1V1%5F1G3F",
    "1E8%1E3%1En%1Eg%2F1E1F3G4%1F3%1F4%7F2%1E3%2E1%2E2F2%2Ia%7R1K7V1E1F1G2R1E8%1E3%1En%1Ea%1E5%2F",
    "1E1G1F1G5%1F1G2%1G2F2%7G2%6E2%1E2F2%2Ia%1E2G1%cF2G2E9%1E3%1E15F2E1G3F4%1G3%1G3F1E1V1%4E3G1K7",
    "E3F2%2IaK9V1E6%1F1G2%1Ei%3Eo%1E9%1E1%2E7%3F1%4G3F3%1F1%1G8%6Ia%2G2R1%cE1cF1E2F7%4T1E6D1F8R1I",
    "aR2%11E2%1E1%1E5%1Eo%1E1%1EaF1E2F9E1%2E5%1D1%1F7%1Ia%2E4%wE1V3RfV1R1V3F2V6IaKaV1F1V1F1V1F1N1",
    "O1N1O1G2E8%1E10%4FeG1F5R1F2E5Fb%1F10%1V8F1V6%1V2R5V4R2%11E17G2F4G1F6G1F2G2F2E1IaR6E6G2F2E4F3",
    "E1G3E2G7E3F4EdF1G2F2G6F1E1G1IaG3F1V2A12%1A1%5A1%2B17R1D1B3E95%1E4%2E7%1E1%1E4%2E15%1E4%2Ex%1",
    "E4%2E7%1E1%1E4%2Ef%1E1l%1E4%2E1v%2F3R9Kk%3EgVa%6A2e%2B6%2M1Eh8V1R1EhW1EqN1O1%3E23R3J3E8%7EiF",
    "3G1%9EjF2G1R2%9EiF2%cEd%1E3%1F2%cE1gF2G1F7G8F1G2FbR3D1R3T1E1F1%2Ia%6Ka%6R6M1R4F3!1F1Ia%6EzD1",
    "E1h%7E5F2EyF1E1%5E1y%aEv%1F3G4F2G3%4G2F1G6F3%4V1%3R2IaEu%2E5%bE18%4Eq%6IaK1%3VyEnF2G2F1%2R2E",
    "1hG1F1G1F7%1F1G1F1G2F8G6Fa%2F1Ia%6Ia%6R7D1R6%2FeH1Fg%1dF4G1E1bF1G1F5G1F1G5F1G2E8%3IaR7VaF9V9",
    "R2%1F2G1EuG1F4G2F2G1F3E2IaE18F1G1F2G3F1G1F3G2%8R4E10G8F8G2F2%3R5Ia%3E3IaEuD6R2B9%7A17%2A3R8%",
    "8F3R1FdG1F7E4F1E6F1E2G1F2E1%5B18D1rBdD1ByD11F1sA1B1A1B1A1B1A1B1A1B1A1B1A1B1A1B1A1B1A1B1A1B1A",
    "1B1A1B1A1B1A1B1A1B1A1B1A1B1A1B1A1B1A1B1A1B1A1B1A1B1A1B1A1B1A1B1A1B1A1B1A1B1A1B1A1B1A1B1A1B1A",
    "1B1A1B1A1B1A1B1A1B1A1B1A1B1A1B1A1B1A1B1A1B1A1B1A1B1A1B1A1B1A1B1A1B1A1B1A1B1A1B1A1B1A1B1A1B1A",
    "1B1A1B1A1B1A1B1A1B1A1B1A1B1A1B1A1B1A1B1A1B1A1B1A1B1A1B1A1B1A1B1A1B1A1B9A1B1A1B1A1B1A1B1A1B1A",
    "1B1A1B1A1B1A1B1A1B1A1B1A1B1A1B1A1B1A1B1A1B1A1B1A1B1A1B1A1B1A1B1A1B1A1B1A1B1A1B1A1B1A1B1A1B1A",
    "1B1A1B1A1B1A1B1A1B1A1B1A1B1A1B1A1B1A1B1A1B1A1B1A1B1A1B1A1B1A1B1A1B1A1B1A1B1A1B1A1B9A8B6%2A6%",
    "2B8A8B8A8B6%2A6%2B8%1A1%1A1%1A1%1A1B8A8Be%2B8C8B8C8B8C8B5%1B2A4C1U1B1U3B3%1B2A4C1U3B4%2B2A4%",
    "1U3B8A5U3%2B3%1B2A4C1U2%1Wb!5M6R2P1Q1N1P2Q1N1P1R8X1Y1!5W1R9P1Q1R4L2R3S1N1O1RbS1R1L1RaW1!5%1!",
    "aK1D1%2K6S3N1O1D1KaS3N1O1%1Dd%3Tx%fFdH4F1H3Fc%fV2A1V4A1V2B1A3B2A3B1V1A1V2S1A5V6A1V1A1V1A1V1A",
    "4V1B1A4B1E4B1V2B2A2S5A1B4V1S1V2B1V1KgJzA1B1J4K1V2%4S5V5S2V4S1V2S1V2S1V7S1VvS2V2S1V1S1VvS7gV8",
    "N1O1N1O1VkS2V7N1O1V29S1VuSpV14S6V1x%pVb%lK1oV26KmV53S1V9S1V1iS8V33S1V6wN1O1N1O1N1O1N1O1N1O1N",
    "1O1N1O1KuV18S5N1O1SvN1O1N1O1N1O1N1O1N1O1SgV74S3nN1O1N1O1N1O1N1O1N1O1N1O1N1O1N1O1N1O1N1O1N1O1",
    "S1rN1O1N1O1SwN1O1S76V1cSlV2S6V13%2Vw%1V2xA1cB1cA1B1A3B2A1B1A1B1A1B1A4B1A1B2A1B6D2A3B1A1B1A1B",
    "1A1B1A1B1A1B1A1B1A1B1A1B1A1B1A1B1A1B1A1B1A1B1A1B1A1B1A1B1A1B1A1B1A1B1A1B1A1B1A1B1A1B1A1B1A1B",
    "1A1B1A1B1A1B1A1B1A1B1A1B1A1B1A1B1A1B1A1B1A1B1A1B1A1B1A1B1A1B1A1B1A1B1A1B1A1B1A1B1A1B1A1B1A1B",
    "1A1B2V6A1B1A1B1F3A1B1%5R4K1R2B12%1B1%5B1%2E1k%7D1R1%eF1En%9E7%1E7%1E7%1E7%1E7%1E7%1E7%1E7%1F",
    "wR2P1Q1P1Q1R3P1Q1R1P1Q1R9M1R2M1R1P1Q1R2P1Q1N1O1N1O1N1O1N1O1R5D1RaM2R4M1R1N1RdV2R3N1O1N1O1N1O",
    "1N1O1M1%yVq%1V2h%cV5y%qVc%4W1R3V1D1E1J1N1O1N1O1N1O1N1O1N1O1V2N1O1N1O1N1O1N1O1M1N1O2V1J9F4G2M",
    "1D5V2J3D1E1R1V2%1E2e%2F2U2D2E1M1E2iR1D3E1%5E17%1E2m%1V2K4VaEwV10%cEgVv%1KaVuK8V1KfVwKaV13KfV",
    "8wE534V1sEg7pD1Evr%3V1j%9E14D6R2E7gD1R3EgIaE2%kA1B1A1B1A1B1A1B1A1B1A1B1A1B1A1B1A1B1A1B1A1B1A",
    "1B1A1B1A1B1A1B1A1B1A1B1A1B1A1B1A1B1A1B1A1B1A1B1E1F1H3R1FaR1D1A1B1A1B1A1B1A1B1A1B1A1B1A1B1A1B",
    "1A1B1A1B1A1B1A1B1A1B1A1B1D2F2E1yJaF2R6%8UnD9U2A1B1A1B1A1B1A1B1A1B1A1B1A1B3A1B1A1B1A1B1A1B1A1",
    "B1A1B1A1B1A1B1A1B1A1B1A1B1A1B1A1B1A1B1A1B1A1B1A1B1A1B1A1B1A1B1A1B1A1B1A1B1A1B1A1B1A1B1A1B1A1",
    "B1A1B1A1B1A1B1D1B8A1B1A1B1A2B1A1B1A1B1A1B1A1B1D1U2A1B1A1B1E1A1B1A1B3A1B1A1B1A1B1A1B1A1B1A1B1",
    "A1B1A1B1A1B1A1B1A5B1A5B1A1B1A1B1A1B1A1B1A1B1A1B1A1B1A4B1A1B1%5A1B1%1B1%1B1A1B1A1B1%oD3A1B1E1",
    "D2B1E7F1E3F1E4F1EnG2F2G1V4F1%3K6V2T1V1%6E1gR4%8G2E1eGgF2%8R2Ia%6FiE6R3E1R1E2F1IaEsF8R2EnFbG2",
    "%bR1Et%3F3G1E1bF1G2F4G2F2G3Rd%1D1Ia%4R2E5F1D1E9IaE5%1E15F6G2F2G2F2%9E3F1E8F1G1%2Ia%2R4EgD1E6",
    "V3E1G1F1G1E1eF1E1F3E2F2E5F2E1F1E1%oE2D1R2EbG1F2G2R2E1D2G1F1%aE6%2E6%2E6%9E7%1E7%1B17U1D4B9D1",
    "U2%4B28EzG2F1G2F1G2R1G1F1%2Ia%6E8mc%cEn%4E1d%4~1kw^4xsEa6%2E2y%12B7%cB5%5E1F1EaS1Ed%1E5%1E1%",
    "1E2%1E2%1E30Uh%gEa3O1N1VgE1s%2E1i%7V1%wEcT1V3FgR7N1O1R1%6FgR1M2L2N1O1N1O1N1O1N1O1N1O1N1O1N1O",
    "1N1O1R2N1O1R4L3R3%1R4M1N1O1N1O1N1O1R3S1M1S3%1R1T1R2%4E5%1E3r%2!1%1R3T1R3N1O1R1S1R1M1R2IaR2S3",
    "R2AqN1R1O1U1L1U1BqN1S1O1S1N1O1R1N1O1R2EaD1E19D2Ev%3E6%2E6%2E6%2E3%3T2S1U1V1T2%1V1S4V2%a!3V2%",
    "2Ec%1Eq%1Ej%1E2%1Ef%2Ee%yE3f%5R3%4K19%3V9J1hK4VhK2V3%1Vd%3V1%1bV19F1%3mEt%3E1d%fF1Kr%4EwK4%9",
    "EkJ1E8J1%5E12F5%5Eu%1R1E10%4E8R1J5%16A14B14E26%2Ia%6A10%4B10%4E14%8E1g%bR1Ab%1Af%1A7%1A2%1Bb",
    "%1Bf%1B7%1B2%1vE8n%9Em%aE8%oD6%1D16%1D9%1xE6%2E1%1E18%1E2%3E1%2En%1R1K8EnV2K7Ev%8K9%1cEj%1E2",
    "%5K5EmK6%3R1Eq%5R1%1sE1k%4K2E2Kg%2K1aE1F3%1F2%5F4E4%1E3%1Et%2F3%4F1K9%7R9%7EtK2R1EtK3%wE8V1E",
    "sF2%4K5R7%9E1i%3R7Em%2K8Ej%5K8Ei%7R4%cK7%28E21%1jA1f%dB1f%7K6E10F4%8Ia%86Kv%1E16%1F2M1%2E2%2",
    "3F3EtKaE1%8EmFbK4R5%mEiF4R4%12ElK7%kEn%9G1F1G1E1hFfR7%4KkIaF1E2F2E1%9F3G1E19G3F4G2F2R2!1R4F1",
    "%a!1%2Ep%7Ia%6F3E10F5G1F8%1IaR4E1G2E1%8EzF1R2E1%9F2G1E1cG3F9G2E4R4F4R1G1F1IaE1R1E1R3%1Kk%bEi",
    "%1EpG3F3G2F1G1F2R6F1E2F1%1qE7%1E1%1E4%1Ef%1EaR1%6E1bF1G3F8%5Ia%6F2G2%1E8%2E2%2Em%1E7%1E2%1E5",
    "%1F2E1G2F1G4%2G2%2G3%2E1%6G1%5E5G2%2F7%3F5%3vE1hG3F8G2F3G1F1E4R5IaR2%1R1F1E3%uE1cG3F6G1F1G4F",
    "2G1F2E2R1E1%8Ia%4mE1bG3F4%2G4F2G1F2RnE4F2%yE1cG3F8G2F1G1F2R3E1%bIa%6Rd%jE17F1G1F1G2F6G1F1E1R",
    "1%6Ia%1iEr%2F3G2F4G1F5%4IaK2R3V1E7%55E18G3F9G1F2R1%2sAwBwIaK9%cE8%2E1%2E8%1E2%1EoG6%1G2%2F2G",
    "1F1E1G1E1G1F1R3%9Ia%1yE8%2E13G3F4%2F2G4F1E1R1E1G1%rE1FaE14F6G1E1F4R8F1%8E1F6G2F3E1aFdG1F2R3E",
    "1R5%dE21%7Ra%6uE9%1E11G1F7%1F6G1F1E1R5%aIaKj%3R2Eu%2Fm%1G1F7G1F2G1F2%21E7%1E2%1E12F6%3F1%1F2",
    "%1F7E1F1%8Ia%6E6%1E2%1EwG5%1F2%1G2F1G1F1E1%7Ia%8mEjF2G2R2%7F2E1G1Ed%1EyG2F5%3G2F1G1F1RdIa%2e",
    "E1%fKlV8T4Vh%dR1Epm%2uJ33%1R5%bE5g%218E2pR2%dEts!gF1E6Ff%33eEg7%6ntEft%7Ev%1Ia%4R2E27%1Ia%6E",
    "u%2F5R1%aE1cF7R5V4D4R1V1%aIa%1K7%1El%5Ej%j4AwBwKnR4%2tE23%4F1E1G1j%7F4Dd%1sD2R1D1F1%bG2%eE4q",
    "g%8Eye%16E9%6w7D4%1D7%1D2%1E83%fE1%tE3%2E1%eE4%8Eb0%1s4E2z%5Ed%3E9%7Ea%2V1F2R1!4%3mkF1a%2Fn%",
    "9V38%1oV6u%aV13%2V1oG2F3V3G6!8F8V2F7VuF4V1p%lV1uF3V1%3eKk%cKk%cV2f%9Kp%3rAqBqAqB7%1BiAqBqA1%",
    "1A2%2A1%2A2%2A4%1A8B4%1B1%1B7%1BbAqBqA2%1A4%2A8%1A7%1BqA2%1A4%1A5%1A1%3A7%1BqAqBqAqBqAqBqAqB",
    "qAqBqAqBs%2ApS1BpS1B6ApS1BpS1B6ApS1BpS1B6ApS1BpS1B6ApS1BpS1B6A1B1%2I1eVe8F1jV4F1eV8F1VeF1V2R",
    "5%fF5%1Ff%uoBaE1Bk%6B6%5xF7%1Fh%2F7%1F2%1F5%5D1q%xF1%34E19%3F7D7%2Ia%4E1V1%8wEuF1%hE18F4Ia%5",
    "T1%cwErD1F4Ia%kmE7%1E4%1E2%1Ef%1E5h%2K9F7%15AyByF7D1%4Ia%4R2%ltK1nV1K3T1K4%24K19V1Kf%5eE4%1E",
    "r%1E2%1E1%2E1%1Ea%1E4%1E1%1E1%6E1%4E1%1E1%1E1%1E3%1E2%1E1%2E1%1E1%1E1%1E1%1E1%1E2%1E1%2E4%1E",
    "7%1E4%1E4%1E1%1Ea%1Eh%5E3%1E5%1Eh%1gS2%7iV18%4V2s%cVf%2Vf%1Vf%1V11%aKdV4h%1kVt%dV18%4V9%7V2%",
    "eV6%4aV6zU5Vk8%4Vh%3Vd%3V3b%4V2n%6Vc%4V1%fVc%4V1k%8Va%6V14%8Vu%2V2%26V9g%cVe%2Vd%3V9%7V1a%1V",
    "7%8Ve%4V9%7V9%7V43%1V1j%11Ia%smEwyo%wE37e%6E66%2E4g2%eE5rl%2e7Ef2%15uE3t7%5E38g%f975!1%u!2o%",
    "3kF6o%1e6o^1eke%2^1eke%2"]

/-- The category of every run together with the first code point after it. -/
def runs : List (Char × Nat) := labelledRuns table.toList none 0

/-- The general category of a code point. -/
def ofCode (c : Nat) : Category :=
  match labelAt? runs c with
  | some label => ofLabel label
  | none => .unassigned

/-- The general category of a character. -/
def of (c : Char) : Category := ofCode c.toNat

/-- Letters of any case or of none. -/
def isLetter : Category → Bool
  | uppercaseLetter | lowercaseLetter | titlecaseLetter | modifierLetter | otherLetter => true
  | _ => false

def isCasedLetter : Category → Bool
  | uppercaseLetter | lowercaseLetter | titlecaseLetter => true
  | _ => false

def isMark : Category → Bool
  | nonspacingMark | spacingMark | enclosingMark => true
  | _ => false

def isNumber : Category → Bool
  | decimalNumber | letterNumber | otherNumber => true
  | _ => false

def isPunctuation : Category → Bool
  | connectorPunctuation | dashPunctuation | openPunctuation | closePunctuation
  | initialPunctuation | finalPunctuation | otherPunctuation => true
  | _ => false

def isSymbol : Category → Bool
  | mathSymbol | currencySymbol | modifierSymbol | otherSymbol => true
  | _ => false

/-- Blanks and the two separators of lines and paragraphs. -/
def isSeparator : Category → Bool
  | spaceSeparator | lineSeparator | paragraphSeparator => true
  | _ => false

/-- Controls, formats, surrogates, private use and unassigned code points. -/
def isOther : Category → Bool
  | control | format | surrogate | privateUse | unassigned => true
  | _ => false

end Category

end CodeHints.Unicode

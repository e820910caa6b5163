import Verdict.Unicode.CharClass

/-!
# Scripts

* `Script`: one script of the Unicode character database -- its names, its characters, and the
  characters of other scripts that are also used with it;
* `Script.all`: every script;
* `Script.find?`: the script with a name, written in lower case without separators.

A character with the script Common or Inherited that is used with a known set of scripts belongs,
when such uses count, to those scripts instead (`shared`).
-/

namespace Verdict.Unicode

/-- A script: its names, its characters, the further characters used with it, and those of its
    characters that count for other scripts where uses count. -/
structure Script where
  names : List String
  own : List Nat
  further : List Nat := []
  shared : List Nat := []

namespace Script

/-- The characters whose script this is. -/
def characters (s : Script) : CharClass := .packed s.own

/-- The characters that are used with this script. -/
def uses (s : Script) : CharClass :=
  .inter (.union (.packed s.own) (.packed s.further)) (.compl (.packed s.shared))

/-! ## The tables -/

/-- The scripts from adlam to cham. -/
private def tables1 : List Script := [
  { names := ["adlm", "adlam"],
    own := [
      0x01E900_01E94B_01E950_01E959_01E95E_01E95F],
    further := [
      0x00061F_00061F_000640_000640_00204F_00204F_002E41_002E41] },
  { names := ["ahom"],
    own := [
      0x011700_01171A_01171D_01172B_011730_011746] },
  { names := ["hluw", "anatolianhieroglyphs"],
    own := [
      0x014400_014646] },
  { names := ["arab", "arabic"],
    own := [
      0x000600_000604_000606_00060B_00060D_00061A_00061C_00061E_000620_00063F_000641_00064A,
      0x000656_00066F_000671_0006DC_0006DE_0006FF_000750_00077F_000870_00088E_000890_000891,
      0x000897_0008E1_0008E3_0008FF_00FB50_00FBC2_00FBD3_00FD3D_00FD40_00FD8F_00FD92_00FDC7,
      0x00FDCF_00FDCF_00FDF0_00FDFF_00FE70_00FE74_00FE76_00FEFC_010E60_010E7E_010EC2_010EC4,
      0x010EFC_010EFF_01EE00_01EE03_01EE05_01EE1F_01EE21_01EE22_01EE24_01EE24_01EE27_01EE27,
      0x01EE29_01EE32_01EE34_01EE37_01EE39_01EE39_01EE3B_01EE3B_01EE42_01EE42_01EE47_01EE47,
      0x01EE49_01EE49_01EE4B_01EE4B_01EE4D_01EE4F_01EE51_01EE52_01EE54_01EE54_01EE57_01EE57,
      0x01EE59_01EE59_01EE5B_01EE5B_01EE5D_01EE5D_01EE5F_01EE5F_01EE61_01EE62_01EE64_01EE64,
      0x01EE67_01EE6A_01EE6C_01EE72_01EE74_01EE77_01EE79_01EE7C_01EE7E_01EE7E_01EE80_01EE89,
      0x01EE8B_01EE9B_01EEA1_01EEA3_01EEA5_01EEA9_01EEAB_01EEBB_01EEF0_01EEF1],
    further := [
      0x00060C_00060C_00061B_00061B_00061F_00061F_000640_000640_00064B_000655_000670_000670,
      0x00204F_00204F_002E41_002E41_00FD3E_00FD3F_0102E0_0102FB] },
  { names := ["armn", "armenian"],
    own := [
      0x000531_000556_000559_00058A_00058D_00058F_00FB13_00FB17],
    further := [
      0x000308_000308] },
  { names := ["avst", "avestan"],
    own := [
      0x010B00_010B35_010B39_010B3F],
    further := [
      0x0000B7_0000B7_002E30_002E31] },
  { names := ["bali", "balinese"],
    own := [
      0x001B00_001B4C_001B4E_001B7F] },
  { names := ["bamu", "bamum"],
    own := [
      0x00A6A0_00A6F7_016800_016A38] },
  { names := ["bass", "bassavah"],
    own := [
      0x016AD0_016AED_016AF0_016AF5] },
  { names := ["batk", "batak"],
    own := [
      0x001BC0_001BF3_001BFC_001BFF] },
  { names := ["beng", "bengali"],
    own := [
      0x000980_000983_000985_00098C_00098F_000990_000993_0009A8_0009AA_0009B0_0009B2_0009B2,
      0x0009B6_0009B9_0009BC_0009C4_0009C7_0009C8_0009CB_0009CE_0009D7_0009D7_0009DC_0009DD,
      0x0009DF_0009E3_0009E6_0009FE],
    further := [
      0x0002BC_0002BC_000951_000952_000964_000965_001CD0_001CD0_001CD2_001CD2_001CD5_001CD6,
      0x001CD8_001CD8_001CE1_001CE1_001CEA_001CEA_001CED_001CED_001CF2_001CF2_001CF5_001CF7,
      0x00A8F1_00A8F1] },
  { names := ["bhks", "bhaiksuki"],
    own := [
      0x011C00_011C08_011C0A_011C36_011C38_011C45_011C50_011C6C] },
  { names := ["bopo", "bopomofo"],
    own := [
      0x0002EA_0002EB_003105_00312F_0031A0_0031BF],
    further := [
      0x0002C7_0002C7_0002C9_0002CB_0002D9_0002D9_003001_003003_003008_003011_003013_00301F,
      0x00302A_00302D_003030_003030_003037_003037_0030FB_0030FB_00FE45_00FE46_00FF61_00FF65] },
  { names := ["brah", "brahmi"],
    own := [
      0x011000_01104D_011052_011075_01107F_01107F] },
  { names := ["brai", "braille"],
    own := [
      0x002800_0028FF] },
  { names := ["bugi", "buginese"],
    own := [
      0x001A00_001A1B_001A1E_001A1F],
    further := [
      0x00A9CF_00A9CF] },
  { names := ["buhd", "buhid"],
    own := [
      0x001740_001753],
    further := [
      0x001735_001736] },
  { names := ["cans", "canadianaboriginal"],
    own := [
      0x001400_00167F_0018B0_0018F5_011AB0_011ABF] },
  { names := ["cari", "carian"],
    own := [
      0x0102A0_0102D0],
    further := [
      0x0000B7_0000B7_00205A_00205A_00205D_00205D_002E31_002E31] },
  { names := ["aghb", "caucasianalbanian"],
    own := [
      0x010530_010563_01056F_01056F],
    further := [
      0x000304_000304_000331_000331_00035E_00035E] },
  { names := ["cakm", "chakma"],
    own := [
      0x011100_011134_011136_011147],
    further := [
      0x0009E6_0009EF_001040_001049] },
  { names := ["cham"],
    own := [
      0x00AA00_00AA36_00AA40_00AA4D_00AA50_00AA59_00AA5C_00AA5F] }]

/-- The scripts from cherokee to grantha. -/
private def tables2 : List Script := [
  { names := ["cher", "cherokee"],
    own := [
      0x0013A0_0013F5_0013F8_0013FD_00AB70_00ABBF],
    further := [
      0x000300_000302_000304_000304_00030B_00030C_000323_000324_000330_000331] },
  { names := ["chrs", "chorasmian"],
    own := [
      0x010FB0_010FCB] },
  { names := ["zyyy", "common"],
    own := [
      0x000000_000040_00005B_000060_00007B_0000A9_0000AB_0000B9_0000BB_0000BF_0000D7_0000D7,
      0x0000F7_0000F7_0002B9_0002DF_0002E5_0002E9_0002EC_0002FF_000374_000374_00037E_00037E,
      0x000385_000385_000387_000387_000605_000605_00060C_00060C_00061B_00061B_00061F_00061F,
      0x000640_000640_0006DD_0006DD_0008E2_0008E2_000964_000965_000E3F_000E3F_000FD5_000FD8,
      0x0010FB_0010FB_0016EB_0016ED_001735_001736_001802_001803_001805_001805_001CD3_001CD3,
      0x001CE1_001CE1_001CE9_001CEC_001CEE_001CF3_001CF5_001CF7_001CFA_001CFA_002000_00200B,
      0x00200E_002064_002066_002070_002074_00207E_002080_00208E_0020A0_0020C0_002100_002125,
      0x002127_002129_00212C_002131_002133_00214D_00214F_00215F_002189_00218B_002190_002429,
      0x002440_00244A_002460_0027FF_002900_002B73_002B76_002B95_002B97_002BFF_002E00_002E5D,
      0x002FF0_003004_003006_003006_003008_003020_003030_003037_00303C_00303F_00309B_00309C,
      0x0030A0_0030A0_0030FB_0030FC_003190_00319F_0031C0_0031E5_0031EF_0031EF_003220_00325F,
      0x00327F_0032CF_0032FF_0032FF_003358_0033FF_004DC0_004DFF_00A700_00A721_00A788_00A78A,
      0x00A830_00A839_00A92E_00A92E_00A9CF_00A9CF_00AB5B_00AB5B_00AB6A_00AB6B_00FD3E_00FD3F,
      0x00FE10_00FE19_00FE30_00FE52_00FE54_00FE66_00FE68_00FE6B_00FEFF_00FEFF_00FF01_00FF20,
      0x00FF3B_00FF40_00FF5B_00FF65_00FF70_00FF70_00FF9E_00FF9F_00FFE0_00FFE6_00FFE8_00FFEE,
      0x00FFF9_00FFFD_010100_010102_010107_010133_010137_01013F_010190_01019C_0101D0_0101FC,
      0x0102E1_0102FB_01BCA0_01BCA3_01CC00_01CCF9_01CD00_01CEB3_01CF50_01CFC3_01D000_01D0F5,
      0x01D100_01D126_01D129_01D166_01D16A_01D17A_01D183_01D184_01D18C_01D1A9_01D1AE_01D1EA,
      0x01D2C0_01D2D3_01D2E0_01D2F3_01D300_01D356_01D360_01D378_01D400_01D454_01D456_01D49C,
      0x01D49E_01D49F_01D4A2_01D4A2_01D4A5_01D4A6_01D4A9_01D4AC_01D4AE_01D4B9_01D4BB_01D4BB,
      0x01D4BD_01D4C3_01D4C5_01D505_01D507_01D50A_01D50D_01D514_01D516_01D51C_01D51E_01D539,
      0x01D53B_01D53E_01D540_01D544_01D546_01D546_01D54A_01D550_01D552_01D6A5_01D6A8_01D7CB,
      0x01D7CE_01D7FF_01EC71_01ECB4_01ED01_01ED3D_01F000_01F02B_01F030_01F093_01F0A0_01F0AE,
      0x01F0B1_01F0BF_01F0C1_01F0CF_01F0D1_01F0F5_01F100_01F1AD_01F1E6_01F1FF_01F201_01F202,
      0x01F210_01F23B_01F240_01F248_01F250_01F251_01F260_01F265_01F300_01F6D7_01F6DC_01F6EC,
      0x01F6F0_01F6FC_01F700_01F776_01F77B_01F7D9_01F7E0_01F7EB_01F7F0_01F7F0_01F800_01F80B,
      0x01F810_01F847_01F850_01F859_01F860_01F887_01F890_01F8AD_01F8B0_01F8BB_01F8C0_01F8C1,
      0x01F900_01FA53_01FA60_01FA6D_01FA70_01FA7C_01FA80_01FA89_01FA8F_01FAC6_01FACE_01FADC,
      0x01FADF_01FAE9_01FAF0_01FAF8_01FB00_01FB92_01FB94_01FBF9_0E0001_0E0001_0E0020_0E007F],
    shared := [
      0x0000B7_0000B7_0002BC_0002BC_0002C7_0002C7_0002C9_0002CB_0002CD_0002CD_0002D7_0002D7,
      0x0002D9_0002D9_000374_000374_00060C_00060C_00061B_00061B_00061F_00061F_000640_000640,
      0x000964_000965_0010FB_0010FB_0016EB_0016ED_001735_001736_001802_001803_001805_001805,
      0x001CD3_001CD3_001CE1_001CE1_001CE9_001CEC_001CEE_001CF3_001CF5_001CF7_001CFA_001CFA,
      0x00202F_00202F_00204F_00204F_00205A_00205A_00205D_00205D_002E17_002E17_002E30_002E31,
      0x002E3C_002E3C_002E41_002E41_002E43_002E43_002FF0_002FFF_003001_003003_003006_003006,
      0x003008_003011_003013_00301F_003030_003035_003037_003037_00303C_00303F_00309B_00309C,
      0x0030A0_0030A0_0030FB_0030FC_003190_00319F_0031C0_0031E5_0031EF_0031EF_003220_003247,
      0x003280_0032B0_0032C0_0032CB_0032FF_0032FF_003358_003370_00337B_00337F_0033E0_0033FE,
      0x00A700_00A707_00A830_00A839_00A92E_00A92E_00A9CF_00A9CF_00FD3E_00FD3F_00FE45_00FE46,
      0x00FF61_00FF65_00FF70_00FF70_00FF9E_00FF9F_010100_010102_010107_010133_010137_01013F,
      0x0102E1_0102FB_01BCA0_01BCA3_01D360_01D371_01F250_01F251] },
  { names := ["copt", "coptic", "qaac"],
    own := [
      0x0003E2_0003EF_002C80_002CF3_002CF9_002CFF],
    further := [
      0x0000B7_0000B7_000300_000300_000304_000305_000307_000307_000374_000375_002E17_002E17,
      0x0102E0_0102FB] },
  { names := ["xsux", "cuneiform"],
    own := [
      0x012000_012399_012400_01246E_012470_012474_012480_012543] },
  { names := ["cprt", "cypriot"],
    own := [
      0x010800_010805_010808_010808_01080A_010835_010837_010838_01083C_01083C_01083F_01083F],
    further := [
      0x010100_010102_010107_010133_010137_01013F] },
  { names := ["cpmn", "cyprominoan"],
    own := [
      0x012F90_012FF2],
    further := [
      0x010100_010101] },
  { names := ["cyrl", "cyrillic"],
    own := [
      0x000400_000484_000487_00052F_001C80_001C8A_001D2B_001D2B_001D78_001D78_002DE0_002DFF,
      0x00A640_00A69F_00FE2E_00FE2F_01E030_01E06D_01E08F_01E08F],
    further := [
      0x0002BC_0002BC_000300_000302_000304_000304_000306_000306_000308_000308_00030B_00030B,
      0x000311_000311_000485_000486_001DF8_001DF8_002E43_002E43] },
  { names := ["dsrt", "deseret"],
    own := [
      0x010400_01044F] },
  { names := ["deva", "devanagari"],
    own := [
      0x000900_000950_000955_000963_000966_00097F_00A8E0_00A8FF_011B00_011B09],
    further := [
      0x0002BC_0002BC_000951_000952_000964_000965_001CD0_001CF6_001CF8_001CF9_0020F0_0020F0,
      0x00A830_00A839] },
  { names := ["diak", "divesakuru"],
    own := [
      0x011900_011906_011909_011909_01190C_011913_011915_011916_011918_011935_011937_011938,
      0x01193B_011946_011950_011959] },
  { names := ["dogr", "dogra"],
    own := [
      0x011800_01183B],
    further := [
      0x000964_00096F_00A830_00A839] },
  { names := ["dupl", "duployan"],
    own := [
      0x01BC00_01BC6A_01BC70_01BC7C_01BC80_01BC88_01BC90_01BC99_01BC9C_01BC9F],
    further := [
      0x0000B7_0000B7_000307_000308_00030A_00030A_000323_000324_002E3C_002E3C_01BCA0_01BCA3] },
  { names := ["egyp", "egyptianhieroglyphs"],
    own := [
      0x013000_013455_013460_0143FA] },
  { names := ["elba", "elbasan"],
    own := [
      0x010500_010527],
    further := [
      0x0000B7_0000B7_000305_000305] },
  { names := ["elym", "elymaic"],
    own := [
      0x010FE0_010FF6] },
  { names := ["ethi", "ethiopic"],
    own := [
      0x001200_001248_00124A_00124D_001250_001256_001258_001258_00125A_00125D_001260_001288,
      0x00128A_00128D_001290_0012B0_0012B2_0012B5_0012B8_0012BE_0012C0_0012C0_0012C2_0012C5,
      0x0012C8_0012D6_0012D8_001310_001312_001315_001318_00135A_00135D_00137C_001380_001399,
      0x002D80_002D96_002DA0_002DA6_002DA8_002DAE_002DB0_002DB6_002DB8_002DBE_002DC0_002DC6,
      0x002DC8_002DCE_002DD0_002DD6_002DD8_002DDE_00AB01_00AB06_00AB09_00AB0E_00AB11_00AB16,
      0x00AB20_00AB26_00AB28_00AB2E_01E7E0_01E7E6_01E7E8_01E7EB_01E7ED_01E7EE_01E7F0_01E7FE],
    further := [
      0x00030E_00030E] },
  { names := ["gara", "garay"],
    own := [
      0x010D40_010D65_010D69_010D85_010D8E_010D8F],
    further := [
      0x00060C_00060C_00061B_00061B_00061F_00061F] },
  { names := ["geor", "georgian"],
    own := [
      0x0010A0_0010C5_0010C7_0010C7_0010CD_0010CD_0010D0_0010FA_0010FC_0010FF_001C90_001CBA,
      0x001CBD_001CBF_002D00_002D25_002D27_002D27_002D2D_002D2D],
    further := [
      0x0000B7_0000B7_000589_000589_0010FB_0010FB_00205A_00205A_002E31_002E31] },
  { names := ["glag", "glagolitic"],
    own := [
      0x002C00_002C5F_01E000_01E006_01E008_01E018_01E01B_01E021_01E023_01E024_01E026_01E02A],
    further := [
      0x0000B7_0000B7_000303_000303_000305_000305_000484_000484_000487_000487_000589_000589,
      0x0010FB_0010FB_00205A_00205A_002E43_002E43_00A66F_00A66F] },
  { names := ["goth", "gothic"],
    own := [
      0x010330_01034A],
    further := [
      0x0000B7_0000B7_000304_000305_000308_000308_000331_000331] },
  { names := ["gran", "grantha"],
    own := [
      0x011300_011303_011305_01130C_01130F_011310_011313_011328_01132A_011330_011332_011333,
      0x011335_011339_01133C_011344_011347_011348_01134B_01134D_011350_011350_011357_011357,
      0x01135D_011363_011366_01136C_011370_011374],
    further := [
      0x000951_000952_000964_000965_000BE6_000BF3_001CD0_001CD0_001CD2_001CD3_001CF2_001CF4,
      0x001CF8_001CF9_0020F0_0020F0_01133B_01133B_011FD0_011FD1_011FD3_011FD3] }]

/-- The scripts from greek to kayahli. -/
private def tables3 : List Script := [
  { names := ["grek", "greek"],
    own := [
      0x000370_000373_000375_000377_00037A_00037D_00037F_00037F_000384_000384_000386_000386,
      0x000388_00038A_00038C_00038C_00038E_0003A1_0003A3_0003E1_0003F0_0003FF_001D26_001D2A,
      0x001D5D_001D61_001D66_001D6A_001DBF_001DBF_001F00_001F15_001F18_001F1D_001F20_001F45,
      0x001F48_001F4D_001F50_001F57_001F59_001F59_001F5B_001F5B_001F5D_001F5D_001F5F_001F7D,
      0x001F80_001FB4_001FB6_001FC4_001FC6_001FD3_001FD6_001FDB_001FDD_001FEF_001FF2_001FF4,
      0x001FF6_001FFE_002126_002126_00AB65_00AB65_010140_01018E_0101A0_0101A0_01D200_01D245],
    further := [
      0x0000B7_0000B7_000300_000301_000304_000304_000306_000306_000308_000308_000313_000313,
      0x000342_000342_000345_000345_000374_000374_001DC0_001DC1_00205D_00205D] },
  { names := ["gujr", "gujarati"],
    own := [
      0x000A81_000A83_000A85_000A8D_000A8F_000A91_000A93_000AA8_000AAA_000AB0_000AB2_000AB3,
      0x000AB5_000AB9_000ABC_000AC5_000AC7_000AC9_000ACB_000ACD_000AD0_000AD0_000AE0_000AE3,
      0x000AE6_000AF1_000AF9_000AFF],
    further := [
      0x000951_000952_000964_000965_00A830_00A839] },
  { names := ["gong", "gunjalagondi"],
    own := [
      0x011D60_011D65_011D67_011D68_011D6A_011D8E_011D90_011D91_011D93_011D98_011DA0_011DA9],
    further := [
      0x0000B7_0000B7_000964_000965] },
  { names := ["guru", "gurmukhi"],
    own := [
      0x000A01_000A03_000A05_000A0A_000A0F_000A10_000A13_000A28_000A2A_000A30_000A32_000A33,
      0x000A35_000A36_000A38_000A39_000A3C_000A3C_000A3E_000A42_000A47_000A48_000A4B_000A4D,
      0x000A51_000A51_000A59_000A5C_000A5E_000A5E_000A66_000A76],
    further := [
      0x000951_000952_000964_000965_00A830_00A839] },
  { names := ["gukh", "gurungkhema"],
    own := [
      0x016100_016139],
    further := [
      0x000965_000965] },
  { names := ["hani", "han"],
    own := [
      0x002E80_002E99_002E9B_002EF3_002F00_002FD5_003005_003005_003007_003007_003021_003029,
      0x003038_00303B_003400_004DBF_004E00_009FFF_00F900_00FA6D_00FA70_00FAD9_016FE2_016FE3,
      0x016FF0_016FF1_020000_02A6DF_02A700_02B739_02B740_02B81D_02B820_02CEA1_02CEB0_02EBE0,
      0x02EBF0_02EE5D_02F800_02FA1D_030000_03134A_031350_0323AF],
    further := [
      0x0000B7_0000B7_002FF0_002FFF_003001_003003_003006_003006_003008_003011_003013_00301F,
      0x00302A_00302D_003030_003030_003037_003037_00303C_00303F_0030FB_0030FB_003190_00319F,
      0x0031C0_0031E5_0031EF_0031EF_003220_003247_003280_0032B0_0032C0_0032CB_0032FF_0032FF,
      0x003358_003370_00337B_00337F_0033E0_0033FE_00A700_00A707_00FE45_00FE46_00FF61_00FF65,
      0x01D360_01D371_01F250_01F251] },
  { names := ["hang", "hangul"],
    own := [
      0x001100_0011FF_00302E_00302F_003131_00318E_003200_00321E_003260_00327E_00A960_00A97C,
      0x00AC00_00D7A3_00D7B0_00D7C6_00D7CB_00D7FB_00FFA0_00FFBE_00FFC2_00FFC7_00FFCA_00FFCF,
      0x00FFD2_00FFD7_00FFDA_00FFDC],
    further := [
      0x003001_003003_003008_003011_003013_00301F_003030_003030_003037_003037_0030FB_0030FB,
      0x00FE45_00FE46_00FF61_00FF65] },
  { names := ["rohg", "hanifirohingya"],
    own := [
      0x010D00_010D27_010D30_010D39],
    further := [
      0x00060C_00060C_00061B_00061B_00061F_00061F_000640_000640_0006D4_0006D4] },
  { names := ["hano", "hanunoo"],
    own := [
      0x001720_001734],
    further := [
      0x001735_001736] },
  { names := ["hatr", "hatran"],
    own := [
      0x0108E0_0108F2_0108F4_0108F5_0108FB_0108FF] },
  { names := ["hebr", "hebrew"],
    own := [
      0x000591_0005C7_0005D0_0005EA_0005EF_0005F4_00FB1D_00FB36_00FB38_00FB3C_00FB3E_00FB3E,
      0x00FB40_00FB41_00FB43_00FB44_00FB46_00FB4F],
    further := [
      0x000307_000308] },
  { names := ["hira", "hiragana"],
    own := [
      0x003041_003096_00309D_00309F_01B001_01B11F_01B132_01B132_01B150_01B152_01F200_01F200],
    further := [
      0x003001_003003_003008_003011_003013_00301F_003030_003035_003037_003037_00303C_00303D,
      0x003099_00309C_0030A0_0030A0_0030FB_0030FC_00FE45_00FE46_00FF61_00FF65_00FF70_00FF70,
      0x00FF9E_00FF9F] },
  { names := ["armi", "imperialaramaic"],
    own := [
      0x010840_010855_010857_01085F] },
  { names := ["zinh", "inherited", "qaai"],
    own := [
      0x000300_00036F_000485_000486_00064B_000655_000670_000670_000951_000954_001AB0_001ACE,
      0x001CD0_001CD2_001CD4_001CE0_001CE2_001CE8_001CED_001CED_001CF4_001CF4_001CF8_001CF9,
      0x001DC0_001DFF_00200C_00200D_0020D0_0020F0_00302A_00302D_003099_00309A_00FE00_00FE0F,
      0x00FE20_00FE2D_0101FD_0101FD_0102E0_0102E0_01133B_01133B_01CF00_01CF2D_01CF30_01CF46,
      0x01D167_01D169_01D17B_01D182_01D185_01D18B_01D1AA_01D1AD_0E0100_0E01EF],
    shared := [
      0x000300_00030E_000310_000311_000313_000313_000320_000320_000323_000325_00032D_00032E,
      0x000330_000331_000342_000342_000345_000345_000358_000358_00035E_00035E_000363_00036F,
      0x000485_000486_00064B_000655_000670_000670_000951_000952_001CD0_001CD2_001CD4_001CE0,
      0x001CE2_001CE8_001CED_001CED_001CF4_001CF4_001CF8_001CF9_001DC0_001DC1_001DF8_001DF8,
      0x001DFA_001DFA_0020F0_0020F0_00302A_00302D_003099_00309A_0102E0_0102E0_01133B_01133B] },
  { names := ["phli", "inscriptionalpahlavi"],
    own := [
      0x010B60_010B72_010B78_010B7F] },
  { names := ["prti", "inscriptionalparthian"],
    own := [
      0x010B40_010B55_010B58_010B5F] },
  { names := ["java", "javanese"],
    own := [
      0x00A980_00A9CD_00A9D0_00A9D9_00A9DE_00A9DF],
    further := [
      0x00A9CF_00A9CF] },
  { names := ["kthi", "kaithi"],
    own := [
      0x011080_0110C2_0110CD_0110CD],
    further := [
      0x000966_00096F_002E31_002E31_00A830_00A839] },
  { names := ["knda", "kannada"],
    own := [
      0x000C80_000C8C_000C8E_000C90_000C92_000CA8_000CAA_000CB3_000CB5_000CB9_000CBC_000CC4,
      0x000CC6_000CC8_000CCA_000CCD_000CD5_000CD6_000CDD_000CDE_000CE0_000CE3_000CE6_000CEF,
      0x000CF1_000CF3],
    further := [
      0x000951_000952_000964_000965_001CD0_001CD0_001CD2_001CD3_001CDA_001CDA_001CF2_001CF2,
      0x001CF4_001CF4_00A830_00A835] },
  { names := ["kana", "katakana"],
    own := [
      0x0030A1_0030FA_0030FD_0030FF_0031F0_0031FF_0032D0_0032FE_003300_003357_00FF66_00FF6F,
      0x00FF71_00FF9D_01AFF0_01AFF3_01AFF5_01AFFB_01AFFD_01AFFE_01B000_01B000_01B120_01B122,
      0x01B155_01B155_01B164_01B167],
    further := [
      0x000305_000305_000323_000323_003001_003003_003008_003011_003013_00301F_003030_003035,
      0x003037_003037_00303C_00303D_003099_00309C_0030A0_0030A0_0030FB_0030FC_00FE45_00FE46,
      0x00FF61_00FF65_00FF70_00FF70_00FF9E_00FF9F] },
  { names := ["kawi"],
    own := [
      0x011F00_011F10_011F12_011F3A_011F3E_011F5A] },
  { names := ["kali", "kayahli"],
    own := [
      0x00A900_00A92D_00A92F_00A92F],
    further := [
      0x00A92E_00A92E] }]

/-- The scripts from kharoshthi to masaramgondi. -/
private def tables4 : List Script := [
  { names := ["khar", "kharoshthi"],
    own := [
      0x010A00_010A03_010A05_010A06_010A0C_010A13_010A15_010A17_010A19_010A35_010A38_010A3A,
      0x010A3F_010A48_010A50_010A58] },
  { names := ["kits", "khitansmallscript"],
    own := [
      0x016FE4_016FE4_018B00_018CD5_018CFF_018CFF] },
  { names := ["khmr", "khmer"],
    own := [
      0x001780_0017DD_0017E0_0017E9_0017F0_0017F9_0019E0_0019FF] },
  { names := ["khoj", "khojki"],
    own := [
      0x011200_011211_011213_011241],
    further := [
      0x000AE6_000AEF_00A830_00A839] },
  { names := ["sind", "khudawadi"],
    own := [
      0x0112B0_0112EA_0112F0_0112F9],
    further := [
      0x000964_000965_00A830_00A839] },
  { names := ["krai", "kiratrai"],
    own := [
      0x016D40_016D79] },
  { names := ["laoo", "lao"],
    own := [
      0x000E81_000E82_000E84_000E84_000E86_000E8A_000E8C_000EA3_000EA5_000EA5_000EA7_000EBD,
      0x000EC0_000EC4_000EC6_000EC6_000EC8_000ECE_000ED0_000ED9_000EDC_000EDF] },
  { names := ["latn", "latin"],
    own := [
      0x000041_00005A_000061_00007A_0000AA_0000AA_0000BA_0000BA_0000C0_0000D6_0000D8_0000F6,
      0x0000F8_0002B8_0002E0_0002E4_001D00_001D25_001D2C_001D5C_001D62_001D65_001D6B_001D77,
      0x001D79_001DBE_001E00_001EFF_002071_002071_00207F_00207F_002090_00209C_00212A_00212B,
      0x002132_002132_00214E_00214E_002160_002188_002C60_002C7F_00A722_00A787_00A78B_00A7CD,
      0x00A7D0_00A7D1_00A7D3_00A7D3_00A7D5_00A7DC_00A7F2_00A7FF_00AB30_00AB5A_00AB5C_00AB64,
      0x00AB66_00AB69_00FB00_00FB06_00FF21_00FF3A_00FF41_00FF5A_010780_010785_010787_0107B0,
      0x0107B2_0107BA_01DF00_01DF1E_01DF25_01DF2A],
    further := [
      0x0000B7_0000B7_0002BC_0002BC_0002C7_0002C7_0002C9_0002CB_0002CD_0002CD_0002D7_0002D7,
      0x0002D9_0002D9_000300_00030E_000310_000311_000313_000313_000320_000320_000323_000325,
      0x00032D_00032E_000330_000331_000358_000358_00035E_00035E_000363_00036F_000485_000486,
      0x000951_000952_0010FB_0010FB_001DF8_001DF8_00202F_00202F_0020F0_0020F0_002E17_002E17,
      0x00A700_00A707_00A92E_00A92E] },
  { names := ["lepc", "lepcha"],
    own := [
      0x001C00_001C37_001C3B_001C49_001C4D_001C4F] },
  { names := ["limb", "limbu"],
    own := [
      0x001900_00191E_001920_00192B_001930_00193B_001940_001940_001944_00194F],
    further := [
      0x000965_000965] },
  { names := ["lina", "lineara"],
    own := [
      0x010600_010736_010740_010755_010760_010767],
    further := [
      0x010107_010133] },
  { names := ["linb", "linearb"],
    own := [
      0x010000_01000B_01000D_010026_010028_01003A_01003C_01003D_01003F_01004D_010050_01005D,
      0x010080_0100FA],
    further := [
      0x010100_010102_010107_010133_010137_01013F] },
  { names := ["lisu"],
    own := [
      0x00A4D0_00A4FF_011FB0_011FB0],
    further := [
      0x0002BC_0002BC_0002CD_0002CD_00300A_00300B] },
  { names := ["lyci", "lycian"],
    own := [
      0x010280_01029C],
    further := [
      0x00205A_00205A] },
  { names := ["lydi", "lydian"],
    own := [
      0x010920_010939_01093F_01093F],
    further := [
      0x0000B7_0000B7_002E31_002E31] },
  { names := ["mahj", "mahajani"],
    own := [
      0x011150_011176],
    further := [
      0x0000B7_0000B7_000964_00096F_00A830_00A839] },
  { names := ["maka", "makasar"],
    own := [
      0x011EE0_011EF8] },
  { names := ["mlym", "malayalam"],
    own := [
      0x000D00_000D0C_000D0E_000D10_000D12_000D44_000D46_000D48_000D4A_000D4F_000D54_000D63,
      0x000D66_000D7F],
    further := [
      0x000951_000952_000964_000965_001CDA_001CDA_001CF2_001CF2_00A830_00A832] },
  { names := ["mand", "mandaic"],
    own := [
      0x000840_00085B_00085E_00085E],
    further := [
      0x000640_000640] },
  { names := ["mani", "manichaean"],
    own := [
      0x010AC0_010AE6_010AEB_010AF6],
    further := [
      0x000640_000640] },
  { names := ["marc", "marchen"],
    own := [
      0x011C70_011C8F_011C92_011CA7_011CA9_011CB6] },
  { names := ["gonm", "masaramgondi"],
    own := [
      0x011D00_011D06_011D08_011D09_011D0B_011D36_011D3A_011D3A_011D3C_011D3D_011D3F_011D47,
      0x011D50_011D59],
    further := [
      0x000964_000965] }]

/-- The scripts from medefaidrin to olonal. -/
private def tables5 : List Script := [
  { names := ["medf", "medefaidrin"],
    own := [
      0x016E40_016E9A] },
  { names := ["mtei", "meeteimayek"],
    own := [
      0x00AAE0_00AAF6_00ABC0_00ABED_00ABF0_00ABF9] },
  { names := ["mend", "mendekikakui"],
    own := [
      0x01E800_01E8C4_01E8C7_01E8D6] },
  { names := ["merc", "meroiticcursive"],
    own := [
      0x0109A0_0109B7_0109BC_0109CF_0109D2_0109FF] },
  { names := ["mero", "meroitichieroglyphs"],
    own := [
      0x010980_01099F],
    further := [
      0x00205D_00205D] },
  { names := ["plrd", "miao"],
    own := [
      0x016F00_016F4A_016F4F_016F87_016F8F_016F9F] },
  { names := ["modi"],
    own := [
      0x011600_011644_011650_011659],
    further := [
      0x00A830_00A839] },
  { names := ["mong", "mongolian"],
    own := [
      0x001800_001801_001804_001804_001806_001819_001820_001878_001880_0018AA_011660_01166C],
    further := [
      0x001802_001803_001805_001805_00202F_00202F_003001_003002_003008_00300B] },
  { names := ["mroo", "mro"],
    own := [
      0x016A40_016A5E_016A60_016A69_016A6E_016A6F] },
  { names := ["mult", "multani"],
    own := [
      0x011280_011286_011288_011288_01128A_01128D_01128F_01129D_01129F_0112A9],
    further := [
      0x000A66_000A6F] },
  { names := ["mymr", "myanmar"],
    own := [
      0x001000_00109F_00A9E0_00A9FE_00AA60_00AA7F_0116D0_0116E3],
    further := [
      0x00A92E_00A92E] },
  { names := ["nbat", "nabataean"],
    own := [
      0x010880_01089E_0108A7_0108AF] },
  { names := ["nagm", "nagmundari"],
    own := [
      0x01E4D0_01E4F9] },
  { names := ["nand", "nandinagari"],
    own := [
      0x0119A0_0119A7_0119AA_0119D7_0119DA_0119E4],
    further := [
      0x000964_000965_000CE6_000CEF_001CE9_001CE9_001CF2_001CF2_001CFA_001CFA_00A830_00A835] },
  { names := ["talu", "newtailue"],
    own := [
      0x001980_0019AB_0019B0_0019C9_0019D0_0019DA_0019DE_0019DF] },
  { names := ["newa"],
    own := [
      0x011400_01145B_01145D_011461] },
  { names := ["nkoo", "nko"],
    own := [
      0x0007C0_0007FA_0007FD_0007FF],
    further := [
      0x00060C_00060C_00061B_00061B_00061F_00061F_00FD3E_00FD3F] },
  { names := ["nshu", "nushu"],
    own := [
      0x016FE1_016FE1_01B170_01B2FB] },
  { names := ["hmnp", "nyiakengpuachuehmong"],
    own := [
      0x01E100_01E12C_01E130_01E13D_01E140_01E149_01E14E_01E14F] },
  { names := ["ogam", "ogham"],
    own := [
      0x001680_00169C] },
  { names := ["olck", "olchiki"],
    own := [
      0x001C50_001C7F] },
  { names := ["onao", "olonal"],
    own := [
      0x01E5D0_01E5FA_01E5FF_01E5FF],
    further := [
      0x000964_000965] }]

/-- The scripts from oldhungarian to saurashtra. -/
private def tables6 : List Script := [
  { names := ["hung", "oldhungarian"],
    own := [
      0x010C80_010CB2_010CC0_010CF2_010CFA_010CFF],
    further := [
      0x00205A_00205A_00205D_00205D_002E31_002E31_002E41_002E41] },
  { names := ["ital", "olditalic"],
    own := [
      0x010300_010323_01032D_01032F] },
  { names := ["narb", "oldnortharabian"],
    own := [
      0x010A80_010A9F] },
  { names := ["perm", "oldpermic"],
    own := [
      0x010350_01037A],
    further := [
      0x0000B7_0000B7_000300_000300_000306_000308_000313_000313_000483_000483] },
  { names := ["xpeo", "oldpersian"],
    own := [
      0x0103A0_0103C3_0103C8_0103D5] },
  { names := ["sogo", "oldsogdian"],
    own := [
      0x010F00_010F27] },
  { names := ["sarb", "oldsoutharabian"],
    own := [
      0x010A60_010A7F] },
  { names := ["orkh", "oldturkic"],
    own := [
      0x010C00_010C48],
    further := [
      0x00205A_00205A_002E30_002E30] },
  { names := ["ougr", "olduyghur"],
    own := [
      0x010F70_010F89],
    further := [
      0x000640_000640_010AF2_010AF2] },
  { names := ["orya", "oriya"],
    own := [
      0x000B01_000B03_000B05_000B0C_000B0F_000B10_000B13_000B28_000B2A_000B30_000B32_000B33,
      0x000B35_000B39_000B3C_000B44_000B47_000B48_000B4B_000B4D_000B55_000B57_000B5C_000B5D,
      0x000B5F_000B63_000B66_000B77],
    further := [
      0x000951_000952_000964_000965_001CDA_001CDA_001CF2_001CF2] },
  { names := ["osge", "osage"],
    own := [
      0x0104B0_0104D3_0104D8_0104FB],
    further := [
      0x000301_000301_000304_000304_00030B_00030B_000358_000358] },
  { names := ["osma", "osmanya"],
    own := [
      0x010480_01049D_0104A0_0104A9] },
  { names := ["hmng", "pahawhhmong"],
    own := [
      0x016B00_016B45_016B50_016B59_016B5B_016B61_016B63_016B77_016B7D_016B8F] },
  { names := ["palm", "palmyrene"],
    own := [
      0x010860_01087F] },
  { names := ["pauc", "paucinhau"],
    own := [
      0x011AC0_011AF8] },
  { names := ["phag", "phagspa"],
    own := [
      0x00A840_00A877],
    further := [
      0x001802_001803_001805_001805_00202F_00202F_003002_003002] },
  { names := ["phnx", "phoenician"],
    own := [
      0x010900_01091B_01091F_01091F] },
  { names := ["phlp", "psalterpahlavi"],
    own := [
      0x010B80_010B91_010B99_010B9C_010BA9_010BAF],
    further := [
      0x000640_000640] },
  { names := ["rjng", "rejang"],
    own := [
      0x00A930_00A953_00A95F_00A95F] },
  { names := ["runr", "runic"],
    own := [
      0x0016A0_0016EA_0016EE_0016F8],
    further := [
      0x0016EB_0016ED] },
  { names := ["samr", "samaritan"],
    own := [
      0x000800_00082D_000830_00083E],
    further := [
      0x002E31_002E31] },
  { names := ["saur", "saurashtra"],
    own := [
      0x00A880_00A8C5_00A8CE_00A8D9] }]

/-- The scripts from sharada to telugu. -/
private def tables7 : List Script := [
  { names := ["shrd", "sharada"],
    own := [
      0x011180_0111DF],
    further := [
      0x000951_000951_001CD7_001CD7_001CD9_001CD9_001CDC_001CDD_001CE0_001CE0_001CEA_001CEA,
      0x001CED_001CED_00A830_00A835_00A838_00A838] },
  { names := ["shaw", "shavian"],
    own := [
      0x010450_01047F],
    further := [
      0x0000B7_0000B7] },
  { names := ["sidd", "siddham"],
    own := [
      0x011580_0115B5_0115B8_0115DD] },
  { names := ["sgnw", "signwriting"],
    own := [
      0x01D800_01DA8B_01DA9B_01DA9F_01DAA1_01DAAF] },
  { names := ["sinh", "sinhala"],
    own := [
      0x000D81_000D83_000D85_000D96_000D9A_000DB1_000DB3_000DBB_000DBD_000DBD_000DC0_000DC6,
      0x000DCA_000DCA_000DCF_000DD4_000DD6_000DD6_000DD8_000DDF_000DE6_000DEF_000DF2_000DF4,
      0x0111E1_0111F4],
    further := [
      0x000964_000965_001CF2_001CF2] },
  { names := ["sogd", "sogdian"],
    own := [
      0x010F30_010F59],
    further := [
      0x000640_000640] },
  { names := ["sora", "sorasompeng"],
    own := [
      0x0110D0_0110E8_0110F0_0110F9] },
  { names := ["soyo", "soyombo"],
    own := [
      0x011A50_011AA2] },
  { names := ["sund", "sundanese"],
    own := [
      0x001B80_001BBF_001CC0_001CC7] },
  { names := ["sunu", "sunuwar"],
    own := [
      0x011BC0_011BE1_011BF0_011BF9],
    further := [
      0x000300_000301_000303_000303_00030D_00030D_000310_000310_00032D_00032D_000331_000331] },
  { names := ["sylo", "sylotinagri"],
    own := [
      0x00A800_00A82C],
    further := [
      0x000964_000965_0009E6_0009EF] },
  { names := ["syrc", "syriac"],
    own := [
      0x000700_00070D_00070F_00074A_00074D_00074F_000860_00086A],
    further := [
      0x000303_000304_000307_000308_00030A_00030A_000320_000320_000323_000325_00032D_00032E,
      0x000330_000330_00060C_00060C_00061B_00061C_00061F_00061F_000640_000640_00064B_000655,
      0x000670_000670_001DF8_001DF8_001DFA_001DFA] },
  { names := ["tglg", "tagalog"],
    own := [
      0x001700_001715_00171F_00171F],
    further := [
      0x001735_001736] },
  { names := ["tagb", "tagbanwa"],
    own := [
      0x001760_00176C_00176E_001770_001772_001773],
    further := [
      0x001735_001736] },
  { names := ["tale", "taile"],
    own := [
      0x001950_00196D_001970_001974],
    further := [
      0x000300_000301_000307_000308_00030C_00030C_001040_001049] },
  { names := ["lana", "taitham"],
    own := [
      0x001A20_001A5E_001A60_001A7C_001A7F_001A89_001A90_001A99_001AA0_001AAD] },
  { names := ["tavt", "taiviet"],
    own := [
      0x00AA80_00AAC2_00AADB_00AADF] },
  { names := ["takr", "takri"],
    own := [
      0x011680_0116B9_0116C0_0116C9],
    further := [
      0x000964_000965_00A830_00A839] },
  { names := ["taml", "tamil"],
    own := [
      0x000B82_000B83_000B85_000B8A_000B8E_000B90_000B92_000B95_000B99_000B9A_000B9C_000B9C,
      0x000B9E_000B9F_000BA3_000BA4_000BA8_000BAA_000BAE_000BB9_000BBE_000BC2_000BC6_000BC8,
      0x000BCA_000BCD_000BD0_000BD0_000BD7_000BD7_000BE6_000BFA_011FC0_011FF1_011FFF_011FFF],
    further := [
      0x000951_000952_000964_000965_001CDA_001CDA_00A8F3_00A8F3_011301_011301_011303_011303,
      0x01133B_01133C] },
  { names := ["tnsa", "tangsa"],
    own := [
      0x016A70_016ABE_016AC0_016AC9] },
  { names := ["tang", "tangut"],
    own := [
      0x016FE0_016FE0_017000_0187F7_018800_018AFF_018D00_018D08],
    further := [
      0x002FF0_002FFF_0031EF_0031EF] },
  { names := ["telu", "telugu"],
    own := [
      0x000C00_000C0C_000C0E_000C10_000C12_000C28_000C2A_000C39_000C3C_000C44_000C46_000C48,
      0x000C4A_000C4D_000C55_000C56_000C58_000C5A_000C5D_000C5D_000C60_000C63_000C66_000C6F,
      0x000C77_000C7F],
    further := [
      0x000951_000952_000964_000965_001CD5_001CD6_001CD8_001CD8_001CDA_001CDA_001CF2_001CF2] }]

/-- The scripts from thaana to zanabazarsquare. -/
private def tables8 : List Script := [
  { names := ["thaa", "thaana"],
    own := [
      0x000780_0007B1],
    further := [
      0x00060C_00060C_00061B_00061C_00061F_00061F_000660_000669_00FDF2_00FDF2_00FDFD_00FDFD] },
  { names := ["thai"],
    own := [
      0x000E01_000E3A_000E40_000E5B],
    further := [
      0x0002BC_0002BC_0002D7_0002D7_000303_000303_000331_000331] },
  { names := ["tibt", "tibetan"],
    own := [
      0x000F00_000F47_000F49_000F6C_000F71_000F97_000F99_000FBC_000FBE_000FCC_000FCE_000FD4,
      0x000FD9_000FDA],
    further := [
      0x003008_00300B] },
  { names := ["tfng", "tifinagh"],
    own := [
      0x002D30_002D67_002D6F_002D70_002D7F_002D7F],
    further := [
      0x000302_000302_000304_000304_000307_000307_000309_000309] },
  { names := ["tirh", "tirhuta"],
    own := [
      0x011480_0114C7_0114D0_0114D9],
    further := [
      0x000951_000952_000964_000965_001CF2_001CF2_00A830_00A839] },
  { names := ["todr", "todhri"],
    own := [
      0x0105C0_0105F3],
    further := [
      0x000301_000301_000304_000304_000307_000307_000311_000311_000313_000313_00035E_00035E] },
  { names := ["toto"],
    own := [
      0x01E290_01E2AE],
    further := [
      0x0002BC_0002BC] },
  { names := ["tutg", "tulutigalari"],
    own := [
      0x011380_011389_01138B_01138B_01138E_01138E_011390_0113B5_0113B7_0113C0_0113C2_0113C2,
      0x0113C5_0113C5_0113C7_0113CA_0113CC_0113D5_0113D7_0113D8_0113E1_0113E2],
    further := [
      0x000CE6_000CEF_001CF2_001CF2_001CF4_001CF4_00A830_00A835_00A8F1_00A8F1] },
  { names := ["ugar", "ugaritic"],
    own := [
      0x010380_01039D_01039F_01039F] },
  { names := ["vaii", "vai"],
    own := [
      0x00A500_00A62B] },
  { names := ["vith", "vithkuqi"],
    own := [
      0x010570_01057A_01057C_01058A_01058C_010592_010594_010595_010597_0105A1_0105A3_0105B1,
      0x0105B3_0105B9_0105BB_0105BC] },
  { names := ["wcho", "wancho"],
    own := [
      0x01E2C0_01E2F9_01E2FF_01E2FF] },
  { names := ["wara", "warangciti"],
    own := [
      0x0118A0_0118F2_0118FF_0118FF] },
  { names := ["yezi", "yezidi"],
    own := [
      0x010E80_010EA9_010EAB_010EAD_010EB0_010EB1],
    further := [
      0x00060C_00060C_00061B_00061B_00061F_00061F_000660_000669] },
  { names := ["yiii", "yi"],
    own := [
      0x00A000_00A48C_00A490_00A4C6],
    further := [
      0x003001_003002_003008_003011_003014_00301B_0030FB_0030FB_00FF61_00FF65] },
  { names := ["zanb", "zanabazarsquare"],
    own := [
      0x011A00_011A47] }]

/-- Every script. -/
def all : List Script :=
  [tables1, tables2, tables3, tables4, tables5, tables6, tables7, tables8].flatten

/-- The script with this name, which is in lower case and has no separators. -/
def find? (name : String) : Option Script := all.find? fun s => s.names.contains name

end Script

end Verdict.Unicode

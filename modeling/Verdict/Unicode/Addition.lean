import Verdict.Unicode.CharClass

/-!
# Characters later than the tables

Patterns read characters by version 16.0 of the standard: to them, what a later version assigns is
unassigned. Texts are shown and stripped of their marks by the standard as it grew since. This
module holds what those two need to know of the later characters.

* `assigned`: the code points that version 17.0 assigned first;
* `mark`, `graphemeExtend`: those of them that combine with the character before them;
* `laterMark`: marks later than that version.
-/

namespace Verdict.Unicode.Addition

/-- The code points that version 17.0 of the standard assigned first. -/
def assigned : CharClass := .packed [
  0x00088F_00088F_000C5C_000C5C_000CDC_000CDC_001ACF_001ADD_001AE0_001AEB_0020C1_0020C1,
  0x002B96_002B96_00A7CE_00A7CF_00A7D2_00A7D2_00A7D4_00A7D4_00A7F1_00A7F1_00FBC3_00FBD2,
  0x00FD90_00FD91_00FDC8_00FDCE_010940_010959_010EC5_010EC7_010ED0_010ED8_010EFA_010EFB,
  0x011B60_011B67_011DB0_011DDB_011DE0_011DE9_016EA0_016EB8_016EBB_016ED3_016FF2_016FF6,
  0x0187F8_0187FF_018D09_018D1E_018D80_018DF2_01CCFA_01CCFC_01CEBA_01CED0_01CEE0_01CEF0,
  0x01E6C0_01E6DE_01E6E0_01E6F5_01E6FE_01E6FF_01F6D8_01F6D8_01F777_01F77A_01F8D0_01F8D8,
  0x01FA54_01FA57_01FA8A_01FA8A_01FA8E_01FA8E_01FAC8_01FAC8_01FACD_01FACD_01FAEA_01FAEA,
  0x01FAEF_01FAEF_01FBFA_01FBFA_02B73A_02B73F_02CEA2_02CEAD_0323B0_033479]

/-- The marks among them. -/
def mark : CharClass := .packed [
  0x001ACF_001ADD_001AE0_001AEB_010EFA_010EFB_011B60_011B67_01E6E3_01E6E3_01E6E6_01E6E6,
  0x01E6EE_01E6EF_01E6F5_01E6F5]

/-- The marks among them that extend a grapheme: all but some with a width of their own. -/
def graphemeExtend : CharClass :=
  .diff mark (.unions [.single 0x11B61, .single 0x11B65, .single 0x11B67])

/-- Marks that follow after that version: one in the block of Hebrew, two among the extended
    combining marks. -/
def laterMark : CharClass := .unions [.single 0x05C8, .single 0x1ADE, .single 0x1AEC]

end Verdict.Unicode.Addition

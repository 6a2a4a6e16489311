import Bindery.Text.CodeRange

/-!
# Lowercase characters

The Unicode property Lowercase beyond ASCII, version 17.0, as ranges in increasing order.  Where a
script was encoded with its cases alternating, the range has the stride two.
-/

namespace Bindery.Text

/-- The code points beyond ASCII with the property Lowercase. -/
def lowercaseRanges : List CodeRange :=
  [⟨0xAA, 0xAA, 1⟩, ⟨0xB5, 0xB5, 1⟩, ⟨0xBA, 0xBA, 1⟩, ⟨0xDF, 0xF6, 1⟩, ⟨0xF8, 0xFF, 1⟩,
   ⟨0x101, 0x135, 2⟩, ⟨0x137, 0x138, 1⟩, ⟨0x13A, 0x146, 2⟩, ⟨0x148, 0x149, 1⟩, ⟨0x14B, 0x177, 2⟩,
   ⟨0x17A, 0x17A, 1⟩, ⟨0x17C, 0x17C, 1⟩, ⟨0x17E, 0x180, 1⟩, ⟨0x183, 0x183, 1⟩, ⟨0x185, 0x185, 1⟩,
   ⟨0x188, 0x188, 1⟩, ⟨0x18C, 0x18D, 1⟩, ⟨0x192, 0x192, 1⟩, ⟨0x195, 0x195, 1⟩, ⟨0x199, 0x19B, 1⟩,
   ⟨0x19E, 0x19E, 1⟩, ⟨0x1A1, 0x1A5, 2⟩, ⟨0x1A8, 0x1A8, 1⟩, ⟨0x1AA, 0x1AB, 1⟩, ⟨0x1AD, 0x1AD, 1⟩,
   ⟨0x1B0, 0x1B0, 1⟩, ⟨0x1B4, 0x1B4, 1⟩, ⟨0x1B6, 0x1B6, 1⟩, ⟨0x1B9, 0x1BA, 1⟩, ⟨0x1BD, 0x1BF, 1⟩,
   ⟨0x1C6, 0x1C6, 1⟩, ⟨0x1C9, 0x1C9, 1⟩, ⟨0x1CC, 0x1DA, 2⟩, ⟨0x1DC, 0x1DD, 1⟩, ⟨0x1DF, 0x1ED, 2⟩,
   ⟨0x1EF, 0x1F0, 1⟩, ⟨0x1F3, 0x1F3, 1⟩, ⟨0x1F5, 0x1F5, 1⟩, ⟨0x1F9, 0x231, 2⟩, ⟨0x233, 0x239, 1⟩,
   ⟨0x23C, 0x23C, 1⟩, ⟨0x23F, 0x240, 1⟩, ⟨0x242, 0x242, 1⟩, ⟨0x247, 0x24D, 2⟩, ⟨0x24F, 0x293, 1⟩,
   ⟨0x296, 0x2B8, 1⟩, ⟨0x2C0, 0x2C1, 1⟩, ⟨0x2E0, 0x2E4, 1⟩, ⟨0x345, 0x345, 1⟩, ⟨0x371, 0x371, 1⟩,
   ⟨0x373, 0x373, 1⟩, ⟨0x377, 0x377, 1⟩, ⟨0x37A, 0x37D, 1⟩, ⟨0x390, 0x390, 1⟩, ⟨0x3AC, 0x3CE, 1⟩,
   ⟨0x3D0, 0x3D1, 1⟩, ⟨0x3D5, 0x3D7, 1⟩, ⟨0x3D9, 0x3ED, 2⟩, ⟨0x3EF, 0x3F3, 1⟩, ⟨0x3F5, 0x3F5, 1⟩,
   ⟨0x3F8, 0x3F8, 1⟩, ⟨0x3FB, 0x3FC, 1⟩, ⟨0x430, 0x45F, 1⟩, ⟨0x461, 0x481, 2⟩, ⟨0x48B, 0x4BF, 2⟩,
   ⟨0x4C2, 0x4CC, 2⟩, ⟨0x4CE, 0x4CF, 1⟩, ⟨0x4D1, 0x52F, 2⟩, ⟨0x560, 0x588, 1⟩,
   ⟨0x10D0, 0x10FA, 1⟩, ⟨0x10FC, 0x10FF, 1⟩, ⟨0x13F8, 0x13FD, 1⟩, ⟨0x1C80, 0x1C88, 1⟩,
   ⟨0x1C8A, 0x1C8A, 1⟩, ⟨0x1D00, 0x1DBF, 1⟩, ⟨0x1E01, 0x1E93, 2⟩, ⟨0x1E95, 0x1E9D, 1⟩,
   ⟨0x1E9F, 0x1EFD, 2⟩, ⟨0x1EFF, 0x1F07, 1⟩, ⟨0x1F10, 0x1F15, 1⟩, ⟨0x1F20, 0x1F27, 1⟩,
   ⟨0x1F30, 0x1F37, 1⟩, ⟨0x1F40, 0x1F45, 1⟩, ⟨0x1F50, 0x1F57, 1⟩, ⟨0x1F60, 0x1F67, 1⟩,
   ⟨0x1F70, 0x1F7D, 1⟩, ⟨0x1F80, 0x1F87, 1⟩, ⟨0x1F90, 0x1F97, 1⟩, ⟨0x1FA0, 0x1FA7, 1⟩,
   ⟨0x1FB0, 0x1FB4, 1⟩, ⟨0x1FB6, 0x1FB7, 1⟩, ⟨0x1FBE, 0x1FBE, 1⟩, ⟨0x1FC2, 0x1FC4, 1⟩,
   ⟨0x1FC6, 0x1FC7, 1⟩, ⟨0x1FD0, 0x1FD3, 1⟩, ⟨0x1FD6, 0x1FD7, 1⟩, ⟨0x1FE0, 0x1FE7, 1⟩,
   ⟨0x1FF2, 0x1FF4, 1⟩, ⟨0x1FF6, 0x1FF7, 1⟩, ⟨0x2071, 0x2071, 1⟩, ⟨0x207F, 0x207F, 1⟩,
   ⟨0x2090, 0x209C, 1⟩, ⟨0x210A, 0x210A, 1⟩, ⟨0x210E, 0x210F, 1⟩, ⟨0x2113, 0x2113, 1⟩,
   ⟨0x212F, 0x212F, 1⟩, ⟨0x2134, 0x2134, 1⟩, ⟨0x2139, 0x2139, 1⟩, ⟨0x213C, 0x213D, 1⟩,
   ⟨0x2146, 0x2149, 1⟩, ⟨0x214E, 0x214E, 1⟩, ⟨0x2170, 0x217F, 1⟩, ⟨0x2184, 0x2184, 1⟩,
   ⟨0x24D0, 0x24E9, 1⟩, ⟨0x2C30, 0x2C5F, 1⟩, ⟨0x2C61, 0x2C61, 1⟩, ⟨0x2C65, 0x2C66, 1⟩,
   ⟨0x2C68, 0x2C6C, 2⟩, ⟨0x2C71, 0x2C71, 1⟩, ⟨0x2C73, 0x2C74, 1⟩, ⟨0x2C76, 0x2C7D, 1⟩,
   ⟨0x2C81, 0x2CE1, 2⟩, ⟨0x2CE3, 0x2CE4, 1⟩, ⟨0x2CEC, 0x2CEC, 1⟩, ⟨0x2CEE, 0x2CEE, 1⟩,
   ⟨0x2CF3, 0x2CF3, 1⟩, ⟨0x2D00, 0x2D25, 1⟩, ⟨0x2D27, 0x2D27, 1⟩, ⟨0x2D2D, 0x2D2D, 1⟩,
   ⟨0xA641, 0xA66D, 2⟩, ⟨0xA681, 0xA699, 2⟩, ⟨0xA69B, 0xA69D, 1⟩, ⟨0xA723, 0xA72D, 2⟩,
   ⟨0xA72F, 0xA731, 1⟩, ⟨0xA733, 0xA76D, 2⟩, ⟨0xA76F, 0xA778, 1⟩, ⟨0xA77A, 0xA77A, 1⟩,
   ⟨0xA77C, 0xA77C, 1⟩, ⟨0xA77F, 0xA787, 2⟩, ⟨0xA78C, 0xA78C, 1⟩, ⟨0xA78E, 0xA78E, 1⟩,
   ⟨0xA791, 0xA791, 1⟩, ⟨0xA793, 0xA795, 1⟩, ⟨0xA797, 0xA7A9, 2⟩, ⟨0xA7AF, 0xA7AF, 1⟩,
   ⟨0xA7B5, 0xA7C3, 2⟩, ⟨0xA7C8, 0xA7C8, 1⟩, ⟨0xA7CA, 0xA7CA, 1⟩, ⟨0xA7CD, 0xA7DB, 2⟩,
   ⟨0xA7F1, 0xA7F4, 1⟩, ⟨0xA7F6, 0xA7F6, 1⟩, ⟨0xA7F8, 0xA7FA, 1⟩, ⟨0xAB30, 0xAB5A, 1⟩,
   ⟨0xAB5C, 0xAB69, 1⟩, ⟨0xAB70, 0xABBF, 1⟩, ⟨0xFB00, 0xFB06, 1⟩, ⟨0xFB13, 0xFB17, 1⟩,
   ⟨0xFF41, 0xFF5A, 1⟩, ⟨0x10428, 0x1044F, 1⟩, ⟨0x104D8, 0x104FB, 1⟩, ⟨0x10597, 0x105A1, 1⟩,
   ⟨0x105A3, 0x105B1, 1⟩, ⟨0x105B3, 0x105B9, 1⟩, ⟨0x105BB, 0x105BC, 1⟩, ⟨0x10780, 0x10780, 1⟩,
   ⟨0x10783, 0x10785, 1⟩, ⟨0x10787, 0x107B0, 1⟩, ⟨0x107B2, 0x107BA, 1⟩, ⟨0x10CC0, 0x10CF2, 1⟩,
   ⟨0x10D70, 0x10D85, 1⟩, ⟨0x118C0, 0x118DF, 1⟩, ⟨0x16E60, 0x16E7F, 1⟩, ⟨0x16EBB, 0x16ED3, 1⟩,
   ⟨0x1D41A, 0x1D433, 1⟩, ⟨0x1D44E, 0x1D454, 1⟩, ⟨0x1D456, 0x1D467, 1⟩, ⟨0x1D482, 0x1D49B, 1⟩,
   ⟨0x1D4B6, 0x1D4B9, 1⟩, ⟨0x1D4BB, 0x1D4BB, 1⟩, ⟨0x1D4BD, 0x1D4C3, 1⟩, ⟨0x1D4C5, 0x1D4CF, 1⟩,
   ⟨0x1D4EA, 0x1D503, 1⟩, ⟨0x1D51E, 0x1D537, 1⟩, ⟨0x1D552, 0x1D56B, 1⟩, ⟨0x1D586, 0x1D59F, 1⟩,
   ⟨0x1D5BA, 0x1D5D3, 1⟩, ⟨0x1D5EE, 0x1D607, 1⟩, ⟨0x1D622, 0x1D63B, 1⟩, ⟨0x1D656, 0x1D66F, 1⟩,
   ⟨0x1D68A, 0x1D6A5, 1⟩, ⟨0x1D6C2, 0x1D6DA, 1⟩, ⟨0x1D6DC, 0x1D6E1, 1⟩, ⟨0x1D6FC, 0x1D714, 1⟩,
   ⟨0x1D716, 0x1D71B, 1⟩, ⟨0x1D736, 0x1D74E, 1⟩, ⟨0x1D750, 0x1D755, 1⟩, ⟨0x1D770, 0x1D788, 1⟩,
   ⟨0x1D78A, 0x1D78F, 1⟩, ⟨0x1D7AA, 0x1D7C2, 1⟩, ⟨0x1D7C4, 0x1D7C9, 1⟩, ⟨0x1D7CB, 0x1D7CB, 1⟩,
   ⟨0x1DF00, 0x1DF09, 1⟩, ⟨0x1DF0B, 0x1DF1E, 1⟩, ⟨0x1DF25, 0x1DF2A, 1⟩, ⟨0x1E030, 0x1E06D, 1⟩,
   ⟨0x1E922, 0x1E943, 1⟩]

end Bindery.Text

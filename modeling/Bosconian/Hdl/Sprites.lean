import Bosconian.Hdl.DisplayGame

/-!
# The sprites

The memory images the ROMs are initialised with, one number a row and one hexadecimal digit a
texel. Everything proved about the game holds of arbitrary ROMs; these are the ones a concrete
run is shown with.
-/

namespace Bosconian

/-- The texel at `address` of a sprite `width` texels wide. Outside the image it is 0. -/
def texelAt (width : Nat) (rows : List Nat) (address : Nat) : Nat :=
  rows.getD (address / width) 0 / 16 ^ (width - 1 - address % width) % 16

/-- `white_spaceship_up.mif`. -/
def whiteSpaceshipUp : List Nat :=
  [0x00000010000000, 0x00000010000000, 0x00000010000000, 0x00000111000000,
   0x00200121002000, 0x00101121101000, 0x00101222101000, 0x10311212113010,
   0x11111111111110, 0x11303111303110, 0x22103313301220, 0x00100111001000,
   0x00000222000000, 0x00000000000000]

/-- `white_spaceship_down.mif`. -/
def whiteSpaceshipDown : List Nat :=
  [0x00000000000000, 0x00000022200000, 0x00010011100100, 0x02210331330122,
   0x01130311130311, 0x01111111111111, 0x01031121211301, 0x00010122210100,
   0x00010112110100, 0x00020012100200, 0x00000011100000, 0x00000001000000,
   0x00000001000000, 0x00000001000000]

/-- `white_spaceship_left.mif`. -/
def whiteSpaceshipLeft : List Nat :=
  [0x00000001112000, 0x00000000112000, 0x00002113131100, 0x00000001100000,
   0x00000111133000, 0x00011122113120, 0x11112221111120, 0x00011122113120,
   0x00000111133000, 0x00000001100000, 0x00002113131100, 0x00000000112000,
   0x00000001112000, 0x00000000000000]

/-- `white_spaceship_right.mif`. -/
def whiteSpaceshipRight : List Nat :=
  [0x00021110000000, 0x00021100000000, 0x00113131120000, 0x00000110000000,
   0x00033111100000, 0x02131122111000, 0x02111112221111, 0x02131122111000,
   0x00033111100000, 0x00000110000000, 0x00113131120000, 0x00021100000000,
   0x00021110000000, 0x00000000000000]

/-- `green_enemy_base.mif`. -/
def greenEnemyBase : List Nat :=
  [0x1111111111111111111111111111122222211111111111111111111111111111,
   0x1111111111111111111111111112222222222111111111111111111111111111,
   0x1111111111111111111111111122222222222211111111111111111111111111,
   0x1111111111111111111111111220022002200221111111111111111111111111,
   0x1111111111111111111111111222222222222221111111111111111111111111,
   0x1111111111111111111111112222222332222222111111111111111111111111,
   0x1111111111111111111111112222233223322222111111111111111111111111,
   0x1111111111111111111111113333322222233333111111111111111111111111,
   0x1111111111111111111111113333322244433333111111111111111111111111,
   0x1111111111111111111111142222233243324442411111111111111111111111,
   0x1111111111111111111111242222222332224442421111111111111111111111,
   0x1111111111111111111112244222222222444424422111111111111111111111,
   0x1111111111111111111122244220022002400424422211111111111111111111,
   0x1111111111111111112222244122222224442214422222111111111111111111,
   0x1111111111111111122222421112222244222111242222211111111111111111,
   0x1111111111111111222224211111122222211111124222221111111111111111,
   0x1111122222211144222442111111114444111111112442224411122222211111,
   0x1112222222222444224221111111112242111111111224224442222222222111,
   0x1122222222222244242111111111112242111111111112424422222222222211,
   0x1220022002200224421111111111112242111111111111244220022002200221,
   0x1222222222222224111111111111112242111111111111114222222222222221,
   0x2222222332222222111111111111112242111111111111112222222332222222,
   0x2222233223322222111111111111112242111111111111112222233223322222,
   0x3333322222233333111111111111122224211111111111113333322222233333,
   0x3333322244433333111111111122222224444211111111113333322244433333,
   0x2222233243324442411111111222222222244421111111142222233243324442,
   0x2222222332224442422211112220022002200442111122242222222332224442,
   0x1222222222444424422222422222222222244444242244441222222222444421,
   0x1220022002400424444224222222222222244444424422221220022002400421,
   0x1122222224442214224444222002200220024004424222221122222224442211,
   0x1112222244222111111224222222222222224444424221111112222244222111,
   0x1111122222211111111111222222222222224444421111111111122222211111,
   0x1111111111111111111111111111665555661111111111111111111111111111,
   0x1111111111111111111111111111665775661111111111111111111111111111,
   0x1111111111111111111111111166655775566611111111111111111111111111,
   0x1111111111111111111111116665557777555666111111111111111111111111,
   0x1111111111111111111111116665557777555666111111111111111111111111,
   0x1111111111111111111111111166655775566611111111111111111111111111,
   0x1111111111111111111111111111665775661111111111111111111111111111,
   0x1111111111111111111111111111665555661111111111111111111111111111,
   0x1111122222211111111111222222222222224444421111111111122222211111,
   0x1112222222222111111224222222222222224444424221111112222222222111,
   0x1122222222222214222224222002200220024004424222224122222222222211,
   0x1220022002200224222244222222222222444444424422224220022002200221,
   0x1222222222222224444422422222222222444444242244444222222222222221,
   0x2222222332222222422211112220022002400442111122242222222332222222,
   0x2222233223322222411111111222222224444421111111142222233223322222,
   0x3333322222233333111111111122224444442211111111113333322222233333,
   0x3333322244433333111111111111122222211111111111113333322244433333,
   0x2222233243324442111111111111114444111111111111112222233243324442,
   0x2222222332224442111111111111112242111111111111112222222332224442,
   0x1222222222444424111111111111112242111111111111114222222222444421,
   0x1220022002400424421111111111112242111111111111244220022002400421,
   0x1122222224442244242111111111112242111111111112424422222224442211,
   0x1112222244222444224221111111112242111111111224224442222244222111,
   0x1111122222211144222442111111114444111111112442224411122222211111,
   0x1111111111111111242222211111122222211111122222421111111111111111,
   0x1111111111111111124422221112222222222111222244211111111111111111,
   0x1111111111111111112242244122222222222214422422111111111111111111,
   0x1111111111111111111124244220022002200224424211111111111111111111,
   0x1111111111111111111112444222222222222224442111111111111111111111,
   0x1111111111111111111111242222222332222222421111111111111111111111,
   0x1111111111111111111111142222233223322222411111111111111111111111,
   0x1111111111111111111111113333322222233333111111111111111111111111,
   0x1111111111111111111111113333322244433333111111111111111111111111,
   0x1111111111111111111111112222233243324442111111111111111111111111,
   0x1111111111111111111111112222222332224442111111111111111111111111,
   0x1111111111111111111111111222222222444421111111111111111111111111,
   0x1111111111111111111111111220022002400421111111111111111111111111,
   0x1111111111111111111111111122222224442211111111111111111111111111,
   0x1111111111111111111111111112222244222111111111111111111111111111,
   0x1111111111111111111111111111122222211111111111111111111111111111]

/-- The ROMs with these contents. -/
def sprites : Roms where
  up address := BitVec.ofNat 2 (texelAt 14 whiteSpaceshipUp address.toNat)
  down address := BitVec.ofNat 2 (texelAt 14 whiteSpaceshipDown address.toNat)
  left address := BitVec.ofNat 2 (texelAt 14 whiteSpaceshipLeft address.toNat)
  right address := BitVec.ofNat 2 (texelAt 14 whiteSpaceshipRight address.toNat)
  base address := BitVec.ofNat 3 (texelAt 64 greenEnemyBase address.toNat)

end Bosconian

import Mlx90640.Display.Glyphs

/-!
# The tables of `font.h`

The 95 printable characters in four sizes. A row of a table is one number or two, its bytes in
the order of the source from the most significant one down.
-/
namespace Mlx90640.Display.Font

open Mlx90640.Display.Glyphs

/-- Byte `i` of row `num`, in a table whose rows are `perRow` numbers of `width` bytes. -/
def tableByte (words : List Nat) (perRow width num i : Nat) : UInt8 :=
  UInt8.ofNat (words.getD (num * perRow + i / width) 0 / 256 ^ (width - 1 - i % width))

def ascii1206 : List Nat :=
  [0x000000000000000000000000, 0x000004040404040000040000, 0x14140A000000000000000000,
   0x00000A0A1F0A0A1F0A0A0000, 0x00040E1505060C14150E0400, 0x000012150D152E2C2A120000,
   0x0000040A0A36151529160000, 0x020201000000000000000000, 0x100808040404040408081000,
   0x020404080808080804040200, 0x00000004150E0E1504000000, 0x00000008083E080800000000,
   0x000000000000000002020100, 0x00000000003F000000000000, 0x000000000000000000020000,
   0x002010100808040402020100, 0x00000E1111111111110E0000, 0x0000040604040404040E0000,
   0x00000E1111080402011F0000, 0x00000E11100C1010110E0000, 0x0000080C0C0A091F081C0000,
   0x00001F01010F1110110E0000, 0x00000C12010D1311110E0000, 0x00001E100808040404040000,
   0x00000E11110E1111110E0000, 0x00000E111119161009060000, 0x000000000400000000040000,
   0x000000000004000000040400, 0x000010080402020408100000, 0x000000003F003F0000000000,
   0x000002040810100804020000, 0x00000E111108040400040000, 0x00001C22292D2D1D221C0000,
   0x000004040C0A0A1E12330000, 0x00000F12120E1212120F0000, 0x00001E1101010101110E0000,
   0x00000F1212121212120F0000, 0x00001F120A0E0A02121F0000, 0x00001F120A0E0A0202070000,
   0x00001C1201013911120C0000, 0x00003312121E121212330000, 0x00001F0404040404041F0000,
   0x00003E080808080808080907, 0x000037120A060A1212370000, 0x0000070202020202223F0000,
   0x00003B1B1B1B151515350000, 0x00003B1216161A1A12170000, 0x00000E1111111111110E0000,
   0x00000F12120E020202070000, 0x00000E1111111117190E1800, 0x00000F12120E0A1212370000,
   0x00001E1101060810110F0000, 0x00001F1504040404040E0000, 0x0000331212121212120C0000,
   0x00003312120A0A0C04040000, 0x0000151515150E0A0A0A0000, 0x00001B0A0A04040A0A1B0000,
   0x00001B0A0A0A0404040E0000, 0x00001F0908040402121F0000, 0x1C0404040404040404041C00,
   0x000202040404080808101000, 0x0E0808080808080808080E00, 0x040A00000000000000000000,
   0x00000000000000000000003F, 0x020400000000000000000000, 0x00000000000C121C123C0000,
   0x00030202020E1212120E0000, 0x00000000001C1202120C0000, 0x00181010101C1212123C0000,
   0x00000000000C121E021C0000, 0x00182404041E0404041E0000, 0x00000000003C120C021C221C,
   0x00030202020E121212370000, 0x0004040000060404040E0000, 0x00080800000C080808080807,
   0x00030202021A0A060A130000, 0x0007040404040404041F0000, 0x00000000000F151515150000,
   0x00000000000F121212370000, 0x00000000000C1212120C0000, 0x00000000000F1212120E0207,
   0x00000000001C1212121C1038, 0x00000000001B060202070000, 0x00000000001E020C101E0000,
   0x00000004041E0404041C0000, 0x00000000001B1212123C0000, 0x00000000001B0A0A04040000,
   0x000000000015150E0A0A0000, 0x00000000001B0A040A1B0000, 0x00000000003312120C080403,
   0x00000000001E0804041E0000, 0x18080808080C080808081800, 0x080808080808080808080808,
   0x060404040408040404040600, 0x160900000000000000000000]

def ascii1608 : List Nat :=
  [0x00000000000000000000000000000000, 0x00000008080808080808000018180000,
   0x00486C24120000000000000000000000, 0x0000002424247F1212127F1212120000,
   0x0000081C2A2A0A0C1828282A2A1C0808, 0x00000022251515152A58545454220000,
   0x0000000C1212120A76252911916E0000, 0x00060604030000000000000000000000,
   0x00402010100808080808081010204000, 0x00020408081010101010100808040200,
   0x0000000008086B1C1C6B080800000000, 0x00000000080808087F08080808000000,
   0x00000000000000000000000006060403, 0x0000000000000000FE00000000000000,
   0x00000000000000000000000006060000, 0x00008040402020101008080404020200,
   0x00000018244242424242424224180000, 0x000000080E08080808080808083E0000,
   0x0000003C4242422020100804427E0000, 0x0000003C4242201820404042221C0000,
   0x000000203028242422227E2020780000, 0x0000007E0202021A26404042221C0000,
   0x000000382402021A2642424224180000, 0x0000007E222210100808080808080000,
   0x0000003C4242422418244242423C0000, 0x000000182442424264584040241C0000,
   0x00000000000018180000000018180000, 0x00000000000000080000000000080804,
   0x00000040201008040204081020400000, 0x0000000000007F0000007F0000000000,
   0x00000002040810204020100804020000, 0x0000003C424246402010100018180000,
   0x0000001C225A555555552D42221C0000, 0x0000000808181414243C224242E70000,
   0x0000001F2222221E22424242221F0000, 0x0000007C4242010101010142221C0000,
   0x0000001F2242424242424242221F0000, 0x0000003F4212121E12120242423F0000,
   0x0000003F4212121E1212020202070000, 0x0000003C2222010101712122221C0000,
   0x000000E7424242427E42424242E70000, 0x0000003E0808080808080808083E0000,
   0x0000007C10101010101010101010110F, 0x0000007722120A0E0A12122222770000,
   0x000000070202020202020202427F0000, 0x00000077363636362A2A2A2A2A6B0000,
   0x000000E346464A4A5252526262470000, 0x0000001C2241414141414141221C0000,
   0x0000003F424242423E02020202070000, 0x0000001C2241414141414D53321C6000,
   0x0000003F4242423E1212222242C70000, 0x0000007C4242020418204042423E0000,
   0x0000007F4908080808080808081C0000, 0x000000E74242424242424242423C0000,
   0x000000E7424222242414141808080000, 0x0000006B494949495555362222220000,
   0x000000E7422424181818242442E70000, 0x000000772222141408080808081C0000,
   0x0000007E2120101008040442423F0000, 0x00780808080808080808080808087800,
   0x00000202040408080810102020204040, 0x001E1010101010101010101010101E00,
   0x00384400000000000000000000000000, 0x000000000000000000000000000000FF,
   0x00060800000000000000000000000000, 0x000000000000003C4278444242FC0000,
   0x000000030202021A26424242261A0000, 0x00000000000000384402020244380000,
   0x00000060404040784442424264D80000, 0x000000000000003C427E0202423C0000,
   0x000000F08808087E08080808083E0000, 0x000000000000007C22221C023C42423C,
   0x000000030202023A4642424242E70000, 0x0000000C0C00000E08080808083E0000,
   0x0000003030000038202020202020221E, 0x0000000302020272120A161222770000,
   0x0000000E0808080808080808083E0000, 0x000000000000007F9292929292B70000,
   0x000000000000003B4642424242E70000, 0x000000000000003C42424242423C0000,
   0x000000000000001B26424242221E0207, 0x000000000000007844424242447840E0,
   0x00000000000000774C040404041F0000, 0x000000000000007C42023C40423E0000,
   0x000000000008083E0808080808300000, 0x00000000000000634242424262DC0000,
   0x00000000000000E74224241408080000, 0x00000000000000EB4949555522220000,
   0x000000000000007624181818246E0000, 0x00000000000000E74224241418080807,
   0x000000000000007E22100808447E0000, 0x00C0202020202010202020202020C000,
   0x10101010101010101010101010101010, 0x00060808080808100808080808080600,
   0x0C32C200000000000000000000000000]

def ascii2412 : List Nat :=
  [0x000000000000000000000000000000000000000000000000,
   0x000000000000000000000000000000000000000000000000,
   0x000000000000000060006000600060006000600060004000,
   0x200020002000000000000000600060006000000000000000,
   0x000000006006600630039801880044000000000000000000,
   0x000000000000000000000000000000000000000000000000,
   0x00000000000000001002100210021002FE07FE0708020801,
   0x080108010801FE07FE070401040104010401000000000000,
   0x00000000000040004000F00158034C03CC034C0058007000,
   0xE000C001C00140034C035C034C034801F000400040000000,
   0x00000000000000000E010A01910091009100510051003A00,
   0xAE03A0025004500448044804480484028403000000000000,
   0x000000000000000038006C006C006C006C006C002C009807,
   0x1C011A01330133016301E300C308C6093C07000000000000,
   0x000000000C001C0010001000080004000000000000000000,
   0x000000000000000000000000000000000000000000000000,
   0x000000000004000200018000800040004000200020002000,
   0x200020002000200040004000800080000001000200040000,
   0x000000000200040008001000100020002000400040004000,
   0x400040004000400020002000100010000800040002000000,
   0x0000000000000000000000004000C0004000460C4E0FD001,
   0xF0015E0F460C400040004000000000000000000000000000,
   0x000000000000000000000000000040004000400040004000,
   0xFE0F40004000400040004000000000000000000000000000,
   0x000000000000000000000000000000000000000000000000,
   0x0000000000000000000000000C001C001000100008000400,
   0x000000000000000000000000000000000000000000000000,
   0xFE0700000000000000000000000000000000000000000000,
   0x000000000000000000000000000000000000000000000000,
   0x0000000000000000000000001C001C001C00000000000000,
   0x000000000004000600020003000100018000800040004000,
   0x60002000200010001000080008000C000400060002000000,
   0x00000000000000000000F00098010C030C03060606060606,
   0x060606060606060606060C030C039801F000000000000000,
   0x0000000000000000000040007C0060006000600060006000,
   0x60006000600060006000600060006000FC03000000000000,
   0x00000000000000000000F800840102030603060300030001,
   0x8001C000600020001000080204020602FE03000000000000,
   0x000000000000000000007800C6008601860180018001C000,
   0x70008001000100030003060306038601F800000000000000,
   0x0000000000000000000080018001C001A001A00190018801,
   0x880184018201FE0F8001800180018001E007000000000000,
   0x00000000000000000000FC0304000400040004000400F400,
   0x8C010403000300030603060382018401F800000000000000,
   0x00000000000000000000E00118030C030C0004000600E601,
   0x16030E0606060606060604060C021803F000000000000000,
   0x00000000000000000000F8070C0604020401000100018000,
   0x800040004000400060006000600060006000000000000000,
   0x00000000000000000000F8010C030606060606060C021C03,
   0xF000C8010C0306060606060606060C03F001000000000000,
   0x00000000000000000000F0000C010C030602060606060606,
   0x06078C0678060006000300030C018C017800000000000000,
   0x0000000000000000000000000000000000000000E000E000,
   0xE00000000000000000000000E000E000E000000000000000,
   0x000000000000000000000000000000000000000060006000,
   0x000000000000000000000000000060006000400020002000,
   0x000000000000000000040002000180004000200010000800,
   0x040008001000200040008000000100020004000000000000,
   0x0000000000000000000000000000000000000000FE070000,
   0x00000000FE07000000000000000000000000000000000000,
   0x000000000000000004000800100020004000800000010002,
   0x000400020001800040002000100008000400000000000000,
   0x00000000000000000000E0031806040C040C0C0C0C0C0007,
   0x800140004000400000000000E000E000E000000000000000,
   0x0000000000000000E00018030C02CC0564056605A605B604,
   0xB604B604B604B602E4010C040C021803F000000000000000,
   0x00000000000000000000600060005000D000900090008800,
   0x88010801F801040304030402020202060F0F000000000000,
   0x00000000000000000000FE008C030C030C030C030C038C01,
   0xFC000C030C020C060C060C060C060C03FE01000000000000,
   0x00000000000000000000E00318030C060C04040406000600,
   0x060006000600060006040C040C021803F000000000000000,
   0x000000000000000000007F008C010C030C030C060C060C06,
   0x0C060C060C060C060C060C030C038C017F00000000000000,
   0x00000000000000000000FF03060306040604060086008600,
   0xFE008600860086000600060406040602FF03000000000000,
   0x00000000000000000000FF03060306040604060086008600,
   0xFE0086008600860006000600060006001F00000000000000,
   0x00000000000000000000F00018010C020C02040206000600,
   0x06000600C60F060306030C030C031803F000000000000000,
   0x000000000000000000000F0F060606060606060606060606,
   0xFE0706060606060606060606060606060F0F000000000000,
   0x00000000000000000000FC03600060006000600060006000,
   0x60006000600060006000600060006000FC03000000000000,
   0x00000000000000000000F807C000C000C000C000C000C000,
   0xC000C000C000C000C000C000C000C000C000C60066003C00,
   0x00000000000000000000CF038601C6004600260016003600,
   0x2E006E004600C60086008601060106038F07000000000000,
   0x000000000000000000001F00060006000600060006000600,
   0x06000600060006000600060406040602FF03000000000000,
   0x000000000000000000000707860386038E038E034E034E03,
   0x4A035A035A033A0332033203320312038707000000000000,
   0x000000000000000000008E0F0C021C021C02340234026402,
   0x64024402C402840284038403040304031F02000000000000,
   0x00000000000000000000F00098010C030C02060606060606,
   0x060606060606060606060C020C039801F000000000000000,
   0x00000000000000000000FF00060306060606060606060606,
   0x8603FE000600060006000600060006001F00000000000000,
   0x00000000000000000000F00098010C030C02060606060606,
   0x060606060606060676064C02CC039801F000800700030000,
   0x00000000000000000000FF01060306060606060606060603,
   0xFE004600C600860086010603060306060F0E000000000000,
   0x00000000000000000000F8020C030602060206000E003C00,
   0xF800E003800300070206020606060C03F001000000000000,
   0x00000000000000000000FE07620461086108600060006000,
   0x60006000600060006000600060006000F801000000000000,
   0x000000000000000000001E070C020C020C020C020C020C02,
   0x0C020C020C020C020C020C020C021801F000000000000000,
   0x000000000000000000000F070602040104010C010C018800,
   0x880098009800500050007000300020002000000000000000,
   0x00000000000000000000F70E620442044604460464026402,
   0xE402E4029C029C0198019801880188008800000000000000,
   0x000000000000000000009E070C01080118019000B0006000,
   0x200060006000D00090008801080104038E07000000000000,
   0x000000000000000000000F0F060404020C0208011801B800,
   0xB0007000600060006000600060006000F801000000000000,
   0x00000000000000000000FC070C0206030201800180004000,
   0x4000200020001000180008040C040402FE03000000000000,
   0x00000000E003200020002000200020002000200020002000,
   0x2000200020002000200020002000200020002000E0030000,
   0x000000000000000004000400080008001000100010002000,
   0x200040004000C00080008000000100010002000200020004,
   0x000000007C00400040004000400040004000400040004000,
   0x40004000400040004000400040004000400040007C000000,
   0x000060009000080100000000000000000000000000000000,
   0x000000000000000000000000000000000000000000000000,
   0x000000000000000000000000000000000000000000000000,
   0x00000000000000000000000000000000000000000000FF0F,
   0x000000001800600000000000000000000000000000000000,
   0x000000000000000000000000000000000000000000000000,
   0x0000000000000000000000000000000000000000F0010C03,
   0x0C030003E0031C030E03060306038E0B7C0E000000000000,
   0x000000000000000008000E000C000C000C000C00CC013C03,
   0x1C060C060C060C060C060C060C021C03E401000000000000,
   0x0000000000000000000000000000000000000000F0008C01,
   0x8C01860106000600060006020C020C01F000000000000000,
   0x00000000000000000002C003000300030003000378038C03,
   0x0C030603060306030603060304038C077801000000000000,
   0x0000000000000000000000000000000000000000E0011803,
   0x08020C060C06FC070C000C0018041802E001000000000000,
   0x00000000000000000000C0036006300630003000FE013000,
   0x30003000300030003000300030003000FC01000000000000,
   0x0000000000000000000000000000000000000000F007D806,
   0x8C018C018C019801F8000C00FC00CC03060306038E03F800,
   0x000000000000000008000E000C000C000C000C00EC011C03,
   0x0C030C030C030C030C030C030C030C039E07000000000000,
   0x00000000000000000000600060000000000040007C006000,
   0x60006000600060006000600060006000FC03000000000000,
   0x00000000000000000000C001C001000000000001F0018001,
   0x8001800180018001800180018001800180018001CC007C00,
   0x000000000000000008000E000C000C000C000C008C038C00,
   0x8C004C006C005C008C008C010C010C039E07000000000000,
   0x000000000000000040007C00600060006000600060006000,
   0x60006000600060006000600060006000FC03000000000000,
   0x00000000000000000000000000000000000000003707EE06,
   0x66066606660666066606660666066606FF0F000000000000,
   0x0000000000000000000000000000000000000000EE011C03,
   0x0C030C030C030C030C030C030C030C039E07000000000000,
   0x0000000000000000000000000000000000000000F0009801,
   0x0C03060606060606060606060C030C03F000000000000000,
   0x0000000000000000000000000000000000000000EE011C03,
   0x0C060C060C060C060C060C060C031C03EC010C000C003E00,
   0x000000000000000000000000000000000000000078028C03,
   0x0C030603060306030603060304038C03780300030003C007,
   0x00000000000000000000000000000000000000009F035806,
   0x38061800180018001800180018001800FF00000000000000,
   0x0000000000000000000000000000000000000000F0031C03,
   0x0C020C023800F000C003040304038C03FC01000000000000,
   0x0000000000000000000000002000200030003000FE013000,
   0x30003000300030003000300030023002E001000000000000,
   0x00000000000000000000000000000000000008028E030C03,
   0x0C030C030C030C030C030C030C039C077801000000000000,
   0x00000000000000000000000000000000000000001E070C02,
   0x0801080118019000B000B000600060002000000000000000,
   0x0000000000000000000000000000000000000000F70E6204,
   0x460464026402EC029C019801980198010800000000000000,
   0x0000000000000000000000000000000000000000BC071801,
   0x1001B00060006000E0009000080108039E07000000000000,
   0x00000000000000000000000000000000000000009E070801,
   0x0801080190009000B0006000600060002000200024001C00,
   0x0000000000000000000000000000000000000000FC018401,
   0xC4004400600020003000180208020C03FC01000000000000,
   0x000000000003800080008000800080008000800080004000,
   0x200040008000800080008000800080008000800000030000,
   0x400040004000400040004000400040004000400040004000,
   0x400040004000400040004000400040004000400040004000,
   0x000000000C00100010001000100010001000100010002000,
   0x40002000100010001000100010001000100010000C000000,
   0x00001C002204C20480030000000000000000000000000000,
   0x000000000000000000000000000000000000000000000000]

def ascii3216 : List Nat :=
  [0x0000000000000000000000000000000000000000000000000000000000000000,
   0x0000000000000000000000000000000000000000000000000000000000000000,
   0x00000000000000000000C001C001C001C001C001C001C0018000800080008000,
   0x80008000800000000000000000008001C003C003800100000000000000000000,
   0x000000000000E01CE01CF01E700E380718030801840000000000000000000000,
   0x0000000000000000000000000000000000000000000000000000000000000000,
   0x00000000000000000000000020102010201020102010FE7FFE7F100810081008,
   0x1008100810081008FE7FFE7F0804080408040804080400000000000000000000,
   0x000000000000000000010001C0076019103118311839183938017001E001C003,
   0x8007000F001D003900311C311C310C310C11180DE00700010001000100000000,
   0x0000000000000000000000001C1036186308630C63046304630263026301361D,
   0x9C37802280634063406320632063306310221836081C00000000000000000000,
   0x000000000000000000000000F00098018C018C018C018C018C00CC007800183E,
   0x1C083608320863046304C304C303834306438E26781C00000000000000000000,
   0x0000000000001C003C003C003000300010000C00060000000000000000000000,
   0x0000000000000000000000000000000000000000000000000000000000000000,
   0x0000000000000040002000100008000C00040006000300030003800180018001,
   0x8001800180018001800100030003000300060006000C00080010002000400000,
   0x0000000000000200040008001000300020006000C000C000C000800180018001,
   0x80018001800180018001C000C000C00060006000300010000800040002000000,
   0x0000000000000000000000000000000000018003800300011C713C79783DC007,
   0x0001C007783D3C791C7100018003800380010000000000000000000000000000,
   0x0000000000000000000000000000000000000001000100010001000100010001,
   0xFC7F000100010001000100010001000100000000000000000000000000000000,
   0x0000000000000000000000000000000000000000000000000000000000000000,
   0x000000000000000000000000000000001C003C003C003000300010000C000600,
   0x0000000000000000000000000000000000000000000000000000000000000000,
   0xFE7F000000000000000000000000000000000000000000000000000000000000,
   0x0000000000000000000000000000000000000000000000000000000000000000,
   0x000000000000000000000000000018003C003C00180000000000000000000000,
   0x0000000000000040006000200030001000180008000C00040006000200030001,
   0x80018000C00040006000200030001000180008000C0004000600020000000000,
   0x000000000000000000000000C007600C30181830183018200C600C600C600C60,
   0x0C600C600C600C600C601820183018303018600CC00700000000000000000000,
   0x00000000000000000000000000018001F8018001800180018001800180018001,
   0x800180018001800180018001800180018001C003F81F00000000000000000000,
   0x000000000000000000000000E007101C0818043004300C300C30003000180008,
   0x000400020001800040002020102008200430FC1FFC1F00000000000000000000,
   0x000000000000000000000000E003180E0C0C0C180C180C180018000C0006C003,
   0x000E00180010003000300C300C300C100C18180CE00300000000000000000000,
   0x000000000000000000000000000C000E000E000F800E800E400E600E200E100E,
   0x100E080E040E040EFE7F000E000E000E000E000E000EC07F0000000000000000,
   0x000000000000000000000000F03FF03F10001000100008000800C807280C1818,
   0x081000300030003000300C300C3004180418080CF00300000000000000000000,
   0x000000000000000000000000800FC010203010301800180008000C008C0F6C18,
   0x3C301C600C600C600C600C601860182030306018C00700000000000000000000,
   0x000000000000000000000000F83FF83F1C100C08040804040004000200020001,
   0x00010001800080008000C000C000C000C000C000C00000000000000000000000,
   0x000000000000000000000000E007300C18180C300C300C301C3038187008E007,
   0xB007180E0C1C063806300630063006300C18180CE00300000000000000000000,
   0x000000000000000000000000E00318040C080C18061006300630063006300638,
   0x0C3C1836F03100300018001800180C0C0C060C03F00100000000000000000000,
   0x00000000000000000000000000000000000000000000000000008001C003C003,
   0x80010000000000000000000000008001C003C003800100000000000000000000,
   0x0000000000000000000000000000000000000000000000000000C000C0000000,
   0x000000000000000000000000000000000000C000C00080008000400040000000,
   0x000000000000000000000020001000080004000600038001C000600030001800,
   0x0C00180030006000C00080010003000600040008001000200000000000000000,
   0x0000000000000000000000000000000000000000000000000000FE7F00000000,
   0x000000000000FE7F000000000000000000000000000000000000000000000000,
   0x0000000000000000000004000800100020006000C000800100030006000C0018,
   0x00300018000C000600038001C000600020001000080004000000000000000000,
   0x00000000000000000000C0073018083008600C601C601C601C600030001C0006,
   0x00018000800080008000000000008001C003C003800100000000000000000000,
   0x000000000000000000000000C0076018103018200C2F8C4D864CC64CC64C664C,
   0x66446644662666266615CC1C0C40082018303018C00700000000000000000000,
   0x000000000000000000000001C001C001C0014001600320032003200330061006,
   0x10061006F80F080C080C080C0C0C0418041806181F7C00000000000000000000,
   0x000000000000000000000000FE07181C183818301830183018301818180CF807,
   0x1818183018201860186018601860186018301818FE0F00000000000000000000,
   0x000000000000000000000000C0276038103018200C400C400400060006000600,
   0x060006000600060006000C400C400C2018303018C00700000000000000000000,
   0x000000000000000000000000FE03180E18181830183018301860186018601860,
   0x186018601860186018601830183018101818180EFE0300000000000000000000,
   0x000000000000000000000000FE3F1830182018601840180018081808180CF80F,
   0x180C180818081800180018001840184018201830FE3F00000000000000000000,
   0x000000000000000000000000FE7F1870184018C018801800181018101818F81F,
   0x18181810181018001800180018001800180018007E0000000000000000000000,
   0x000000000000000000000000C013701C101018100C200C200400060006000600,
   0x0600060006FC063006300C300C30183018303008C00700000000000000000000,
   0x0000000000000000000000003F7E0C180C180C180C180C180C180C180C180C18,
   0xFC1F0C180C180C180C180C180C180C180C180C183F7E00000000000000000000,
   0x000000000000000000000000F81F800180018001800180018001800180018001,
   0x8001800180018001800180018001800180018001F81F00000000000000000000,
   0x000000000000000000000000E07F000600060006000600060006000600060006,
   0x0006000600060006000600060006000600060006000600060E060E038E01FC00,
   0x0000000000000000000000007E7C18181808180418061802180198019801D801,
   0xB803380318071806180E180C181C1818183018307EFC00000000000000000000,
   0x0000000000000000000000007E00180018001800180018001800180018001800,
   0x1800180018001800180018001840184018201830FE3F00000000000000000000,
   0x0000000000000000000000001FF81C381C381C381C3C34343434343434367432,
   0x6432643264326431C431C431C431C430C43084309FFC00000000000000000000,
   0x0000000000000000000000001F7C1C103C103410341074106410E410C410C411,
   0x84118413041304170416041E041C041C041C04181F1800000000000000000000,
   0x000000000000000000000000C003300C181808100C300C300660066006600660,
   0x066006600660066006600C200C3008101818300CC00300000000000000000000,
   0x000000000000000000000000FE0F181818301860186018601860186018301818,
   0xF80F1800180018001800180018001800180018007E0000000000000000000000,
   0x000000000000000000000000C003300C18180C100C300C200660066006600660,
   0x06600660066006600660E4612C331C321816300EC007004C007C003800000000,
   0x000000000000000000000000FE07181C183818301830183018301818180CF807,
   0x98031803180718061806180E180C180C181C18187E7800000000000000000000,
   0x000000000000000000000000E027303818300C200C200C000C0018007800E003,
   0x800F001E00380070006004600460086018303818C80F00000000000000000000,
   0x000000000000000000000000FC3F8C2184618241824180018001800180018001,
   0x8001800180018001800180018001800180018001E00700000000000000000000,
   0x0000000000000000000000003F7C0C100C100C100C100C100C100C100C100C10,
   0x0C100C100C100C100C100C100C100C1008083804E00300000000000000000000,
   0x0000000000000000000000003EF8182018201820301030103010301060086008,
   0x6008E00CC004C004C00480038003800380030001000100000000000000000000,
   0x000000000000000000000000DFF38661862186218C210C218C238C138C138C13,
   0x4C1358125816580E380E380E380E300C10041004100400000000000000000000,
   0x0000000000000000000000007E3E180838083004300470026002E001C001C001,
   0x800180034003400720062006100C100C081808183E7C00000000000000000000,
   0x0000000000000000000000007E7C1C10181018083008300C700460046002C002,
   0xC002C00180018001800180018001800180018001E00700000000000000000000,
   0x000000000000000000000000F83F18180818040C040E00060007000380038001,
   0xC001C000E000600070003000382018201C100C18FE1F00000000000000000000,
   0x000000000000C03F400040004000400040004000400040004000400040004000,
   0x4000400040004000400040004000400040004000400040004000C03F00000000,
   0x00000000000000000000080018001800100030002000600060004000C0008000,
   0x80018001000100030002000600060004000C0008001800180010003000200000,
   0x000000000000FC03000200020002000200020002000200020002000200020002,
   0x0002000200020002000200020002000200020002000200020002FC0300000000,
   0x0000000000008007C00620081010000000000000000000000000000000000000,
   0x0000000000000000000000000000000000000000000000000000000000000000,
   0x0000000000000000000000000000000000000000000000000000000000000000,
   0x000000000000000000000000000000000000000000000000000000000000FFFF,
   0x0000000000007800C00000010000000000000000000000000000000000000000,
   0x0000000000000000000000000000000000000000000000000000000000000000,
   0x0000000000000000000000000000000000000000000000000000F00318060C0C,
   0x0C0C000C800F700C1C0C0C0C060C060C064C0C4FF83800000000000000000000,
   0x0000000000000000000010001E00180018001800180018001800180FD8183830,
   0x3860186018601860186018601860182038307818C80700000000000000000000,
   0x0000000000000000000000000000000000000000000000000000C007700C1818,
   0x18180C180C000C000C000C000C20182018103008C00700000000000000000000,
   0x000000000000000000000010001E001800180018001800180018E01B301C1818,
   0x18180C180C180C180C180C180C180818181C307AE00900000000000000000000,
   0x0000000000000000000000000000000000000000000000000000C007300C1818,
   0x08100C300C30FC3F0C000C000C00182018107018C00700000000000000000000,
   0x000000000000000000000000003E80C380C0C0C0C000C000C000FC1FC000C000,
   0xC000C000C000C000C000C000C000C000C000C000F80F00000000000000000000,
   0x0000000000000000000000000000000000000000000000000000C077306C1018,
   0x1818181818181018300CF00718001800F00FF03F08700C600C600C603838E00F,
   0x0000000000000000000010001E00180018001800180018001800980FD8183830,
   0x18301830183018301830183018301830183018307EFC00000000000000000000,
   0x0000000000000000000000008003800380030000000000000001F80180018001,
   0x8001800180018001800180018001800180018001F81F00000000000000000000,
   0x0000000000000000000000000038003800380000000000000010801F00180018,
   0x0018001800180018001800180018001800180018001800180018180C1806F003,
   0x0000000000000000000010001E00180018001800180018001800183E180C1806,
   0x180318019801D801380318071806180C181C18187E7C00000000000000000000,
   0x000000000000000000000001F801800180018001800180018001800180018001,
   0x8001800180018001800180018001800180018001F81F00000000000000000000,
   0x0000000000000000000000000000000000000000000000000800EE1C9C338C31,
   0x8C318C318C318C318C318C318C318C318C318C31DE7B00000000000000000000,
   0x00000000000000000000000000000000000000000000000010001E0FD8183830,
   0x18301830183018301830183018301830183018307EFC00000000000000000000,
   0x0000000000000000000000000000000000000000000000000000C007701C1030,
   0x18300C600C600C600C600C600C60183018303018C00700000000000000000000,
   0x00000000000000000000000000000000000000000000000010009E0F58183830,
   0x1820186018601860186018601860183038307818980718001800180018007E00,
   0x0000000000000000000000000000000000000000000000000000C023303C1838,
   0x18300C300C300C300C300C300C3008301838303CE033003000300030003000FC,
   0x00000000000000000000000000000000000000000000000060007E3C60666061,
   0xE000E00060006000600060006000600060006000FE0700000000000000000000,
   0x0000000000000000000000000000000000000000000000000000E02730381830,
   0x182018007000E003800F001C043004300C301C18EC0F00000000000000000000,
   0x00000000000000000000000000000000800080008000C000E000FC1FC000C000,
   0xC000C000C000C000C000C000C000C020C0208011000F00000000000000000000,
   0x00000000000000000000000000000000000000000000000010201E3C18301830,
   0x18301830183018301830183018301830183830F4E01300000000000000000000,
   0x00000000000000000000000000000000000000000000000000007E3C18181808,
   0x380830043004700260026002E001C001C001C000800000000000000000000000,
   0x0000000000000000000000000000000000000000000000000000DFF78E630C23,
   0x8C238C239813981358165816700E700E700E2004200400000000000000000000,
   0x0000000000000000000000000000000000000000000000000000FC3E70087004,
   0xE004C002C0018003800340076006200C100C18183E7E00000000000000000000,
   0x00000000000000000000000000000000000000000000000000007E7C18181808,
   0x30083008300460046004C002C002C0028001800180018000800080004C003C00,
   0x0000000000000000000000000000000000000000000000000000FC1F0C0C040E,
   0x0406000380038001C000E0007020302038301C18FC1F00000000000000000000,
   0x0000000000000030000800040004000400040004000400040004000400040002,
   0x8001000200040004000400040004000400040004000400040004000800300000,
   0x0001000100010001000100010001000100010001000100010001000100010001,
   0x0001000100010001000100010001000100010001000100010001000100010001,
   0x0000000000000C00100020002000200020002000200020002000200020004000,
   0x800140002000200020002000200020002000200020002000200010000C000000,
   0x00003800C400864002610022001C000000000000000000000000000000000000,
   0x0000000000000000000000000000000000000000000000000000000000000000]

/-- The fonts of the display. -/
def fonts : Fonts where
  ascii1206 := tableByte ascii1206 1 12
  ascii1608 := tableByte ascii1608 1 16
  ascii2412 := tableByte ascii2412 2 24
  ascii3216 := tableByte ascii3216 2 32

theorem top_row_empty : ∀ num ∈ [0x20, 0x2E, 0x30, 0x31, 0x32, 0x33, 0x34, 0x35, 0x36, 0x37, 0x38,
    0x39], ∀ c < 12, fonts.bit 24 (num - 0x20) c 0 = false := by
  decide +kernel

/-- Every digit has a dot below its top row and above row 26. -/
theorem digit_has_dot : ∀ sizey ∈ [(12 : UInt8), 16, 24, 32], ∀ d < 10,
    ∃ c < (sizey / 2).toNat, ∃ r < sizey.toNat, fonts.bit sizey (UInt8.ofNat d + 48 - 0x20) c r ∧
      1 ≤ r ∧ r ≤ 25 := by
  decide +kernel

theorem digit_has_gap : ∀ sizey ∈ [(12 : UInt8), 16, 24, 32], ∀ d < 10,
    ∃ c < (sizey / 2).toNat, ∃ r < sizey.toNat,
      fonts.bit sizey (UInt8.ofNat d + 48 - 0x20) c r = false ∧ 1 ≤ r ∧ r ≤ 25 := by
  decide +kernel

theorem point_has_gap : ∀ sizey ∈ [(12 : UInt8), 16, 24, 32],
    ∃ c < (sizey / 2).toNat, ∃ r < sizey.toNat,
      fonts.bit sizey (0x2E - 0x20) c r = false ∧ 1 ≤ r ∧ r ≤ 25 := by
  decide +kernel

end Mlx90640.Display.Font

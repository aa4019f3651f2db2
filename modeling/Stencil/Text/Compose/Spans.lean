import Stencil.Text.Run

/-! # Decomposition and composition of identifier characters -/
namespace Stencil.Text.Compose

/-- Stretches of identifier characters that are another form of one character each. -/
def formRuns : List Run :=
  [⟨0x340, 0x341, 1, -64⟩, ⟨0x3f1, 0x3f2, 1, -48⟩, ⟨0x1d30, 0x1d31, 1, -7404⟩,
   ⟨0x1d33, 0x1d3a, 1, -7404⟩, ⟨0x1d40, 0x1d41, 1, -7404⟩, ⟨0x1d44, 0x1d45, 1, -6900⟩,
   ⟨0x1d48, 0x1d49, 1, -7396⟩, ⟨0x1d4b, 0x1d4c, 1, -6896⟩, ⟨0x1d54, 0x1d55, 1, -62⟩,
   ⟨0x1d57, 0x1d58, 1, -7395⟩, ⟨0x1d5d, 0x1d5f, 1, -6571⟩, ⟨0x1d60, 0x1d61, 1, -6554⟩,
   ⟨0x1d64, 0x1d65, 1, -7407⟩, ⟨0x1d66, 0x1d67, 1, -6580⟩, ⟨0x1d69, 0x1d6a, 1, -6563⟩,
   ⟨0x1da4, 0x1da6, 1, -6972⟩, ⟨0x1dae, 0x1db1, 1, -6972⟩, ⟨0x1db3, 0x1db4, 1, -6961⟩,
   ⟨0x1db6, 0x1db7, 1, -6957⟩, ⟨0x1db9, 0x1dba, 1, -6958⟩, ⟨0x1dbc, 0x1dbe, 1, -6956⟩,
   ⟨0x2096, 0x2099, 1, -8235⟩, ⟨0x209b, 0x209c, 1, -8232⟩, ⟨0x2119, 0x211b, 1, -8393⟩,
   ⟨0x212c, 0x212d, 1, -8426⟩, ⟨0x2130, 0x2131, 1, -8427⟩, ⟨0x2135, 0x2138, 1, -7013⟩,
   ⟨0x2146, 0x2147, 1, -8418⟩, ⟨0x2148, 0x2149, 1, -8415⟩, ⟨0x216d, 0x216e, 1, -8490⟩,
   ⟨0x217d, 0x217e, 1, -8474⟩, ⟨0x3039, 0x303a, 1, 8971⟩, ⟨0x3131, 0x3132, 1, -8241⟩,
   ⟨0x3135, 0x3136, 1, -8073⟩, ⟨0x3137, 0x3139, 1, -8244⟩, ⟨0x313a, 0x313f, 1, -8074⟩,
   ⟨0x3141, 0x3143, 1, -8251⟩, ⟨0x3145, 0x314e, 1, -8252⟩, ⟨0x314f, 0x3163, 1, -8174⟩,
   ⟨0x3165, 0x3166, 1, -8273⟩, ⟨0x3167, 0x3168, 1, -8096⟩, ⟨0x3171, 0x3172, 1, -8276⟩,
   ⟨0x3174, 0x3175, 1, -8274⟩, ⟨0x3178, 0x317c, 1, -8269⟩, ⟨0x3182, 0x3183, 1, -8081⟩,
   ⟨0x3184, 0x3186, 1, -8237⟩, ⟨0x3187, 0x3188, 1, -8195⟩, ⟨0x318a, 0x318b, 1, -8185⟩,
   ⟨0xfa52, 0xfa53, 1, -32965⟩, ⟨0xfb22, 0xfb23, 1, -62799⟩, ⟨0xfb24, 0xfb26, 1, -62793⟩,
   ⟨0xfb7d, 0xfb7e, 1, -62711⟩, ⟨0xfb9f, 0xfba0, 1, -62693⟩, ⟨0xfe8e, 0xfe8f, 1, -63591⟩,
   ⟨0xfe92, 0xfe93, 1, -63594⟩, ⟨0xfe94, 0xfe95, 1, -63595⟩, ⟨0xfe98, 0xfe99, 1, -63598⟩,
   ⟨0xfe9c, 0xfe9d, 1, -63601⟩, ⟨0xfea0, 0xfea1, 1, -63604⟩, ⟨0xfea4, 0xfea5, 1, -63607⟩,
   ⟨0xfea8, 0xfea9, 1, -63610⟩, ⟨0xfeaa, 0xfeab, 1, -63611⟩, ⟨0xfeac, 0xfead, 1, -63612⟩,
   ⟨0xfeae, 0xfeaf, 1, -63613⟩, ⟨0xfeb0, 0xfeb1, 1, -63614⟩, ⟨0xfeb4, 0xfeb5, 1, -63617⟩,
   ⟨0xfeb8, 0xfeb9, 1, -63620⟩, ⟨0xfebc, 0xfebd, 1, -63623⟩, ⟨0xfec0, 0xfec1, 1, -63626⟩,
   ⟨0xfec4, 0xfec5, 1, -63629⟩, ⟨0xfec8, 0xfec9, 1, -63632⟩, ⟨0xfecc, 0xfecd, 1, -63635⟩,
   ⟨0xfed4, 0xfed5, 1, -63635⟩, ⟨0xfed8, 0xfed9, 1, -63638⟩, ⟨0xfedc, 0xfedd, 1, -63641⟩,
   ⟨0xfee0, 0xfee1, 1, -63644⟩, ⟨0xfee4, 0xfee5, 1, -63647⟩, ⟨0xfee8, 0xfee9, 1, -63650⟩,
   ⟨0xfeec, 0xfeed, 1, -63653⟩, ⟨0xfeee, 0xfeef, 1, -63654⟩, ⟨0xfef0, 0xfef1, 1, -63655⟩,
   ⟨0xff10, 0xff19, 1, -65248⟩, ⟨0xff21, 0xff3a, 1, -65248⟩, ⟨0xff41, 0xff5a, 1, -65248⟩,
   ⟨0xff75, 0xff76, 1, -52939⟩, ⟨0xff85, 0xff8a, 1, -52923⟩, ⟨0xff8f, 0xff93, 1, -52913⟩,
   ⟨0xff96, 0xff9b, 1, -52910⟩, ⟨0xff9e, 0xff9f, 1, -52997⟩, ⟨0xffa1, 0xffa2, 1, -61089⟩,
   ⟨0xffa5, 0xffa6, 1, -60921⟩, ⟨0xffa7, 0xffa9, 1, -61092⟩, ⟨0xffaa, 0xffaf, 1, -60922⟩,
   ⟨0xffb1, 0xffb3, 1, -61099⟩, ⟨0xffb5, 0xffbe, 1, -61100⟩, ⟨0xffc2, 0xffc7, 1, -61025⟩,
   ⟨0xffca, 0xffcf, 1, -61027⟩, ⟨0xffd2, 0xffd7, 1, -61029⟩, ⟨0xffda, 0xffdc, 1, -61031⟩,
   ⟨0x10781, 0x10782, 1, -66737⟩, ⟨0x1078b, 0x1078c, 1, -66869⟩, ⟨0x10799, 0x1079a, 1, -66799⟩,
   ⟨0x107a3, 0x107a4, 1, -66861⟩, ⟨0x107a8, 0x107a9, 1, -66859⟩, ⟨0x107b3, 0x107b4, 1, -66834⟩,
   ⟨0x107b6, 0x107b8, 1, -67062⟩, ⟨0x1d400, 0x1d419, 1, -119743⟩, ⟨0x1d41a, 0x1d433, 1, -119737⟩,
   ⟨0x1d434, 0x1d44d, 1, -119795⟩, ⟨0x1d44e, 0x1d454, 1, -119789⟩, ⟨0x1d456, 0x1d467, 1, -119789⟩,
   ⟨0x1d468, 0x1d481, 1, -119847⟩, ⟨0x1d482, 0x1d49b, 1, -119841⟩, ⟨0x1d49e, 0x1d49f, 1, -119899⟩,
   ⟨0x1d4a5, 0x1d4a6, 1, -119899⟩, ⟨0x1d4a9, 0x1d4ac, 1, -119899⟩, ⟨0x1d4ae, 0x1d4b5, 1, -119899⟩,
   ⟨0x1d4b6, 0x1d4b9, 1, -119893⟩, ⟨0x1d4bd, 0x1d4c3, 1, -119893⟩, ⟨0x1d4c5, 0x1d4cf, 1, -119893⟩,
   ⟨0x1d4d0, 0x1d4e9, 1, -119951⟩, ⟨0x1d4ea, 0x1d503, 1, -119945⟩, ⟨0x1d504, 0x1d505, 1, -120003⟩,
   ⟨0x1d507, 0x1d50a, 1, -120003⟩, ⟨0x1d50d, 0x1d514, 1, -120003⟩, ⟨0x1d516, 0x1d51c, 1, -120003⟩,
   ⟨0x1d51e, 0x1d537, 1, -119997⟩, ⟨0x1d538, 0x1d539, 1, -120055⟩, ⟨0x1d53b, 0x1d53e, 1, -120055⟩,
   ⟨0x1d540, 0x1d544, 1, -120055⟩, ⟨0x1d54a, 0x1d550, 1, -120055⟩, ⟨0x1d552, 0x1d56b, 1, -120049⟩,
   ⟨0x1d56c, 0x1d585, 1, -120107⟩, ⟨0x1d586, 0x1d59f, 1, -120101⟩, ⟨0x1d5a0, 0x1d5b9, 1, -120159⟩,
   ⟨0x1d5ba, 0x1d5d3, 1, -120153⟩, ⟨0x1d5d4, 0x1d5ed, 1, -120211⟩, ⟨0x1d5ee, 0x1d607, 1, -120205⟩,
   ⟨0x1d608, 0x1d621, 1, -120263⟩, ⟨0x1d622, 0x1d63b, 1, -120257⟩, ⟨0x1d63c, 0x1d655, 1, -120315⟩,
   ⟨0x1d656, 0x1d66f, 1, -120309⟩, ⟨0x1d670, 0x1d689, 1, -120367⟩, ⟨0x1d68a, 0x1d6a3, 1, -120361⟩,
   ⟨0x1d6a8, 0x1d6b8, 1, -119575⟩, ⟨0x1d6ba, 0x1d6c0, 1, -119575⟩, ⟨0x1d6c2, 0x1d6da, 1, -119569⟩,
   ⟨0x1d6e2, 0x1d6f2, 1, -119633⟩, ⟨0x1d6f4, 0x1d6fa, 1, -119633⟩, ⟨0x1d6fc, 0x1d714, 1, -119627⟩,
   ⟨0x1d71c, 0x1d72c, 1, -119691⟩, ⟨0x1d72e, 0x1d734, 1, -119691⟩, ⟨0x1d736, 0x1d74e, 1, -119685⟩,
   ⟨0x1d756, 0x1d766, 1, -119749⟩, ⟨0x1d768, 0x1d76e, 1, -119749⟩, ⟨0x1d770, 0x1d788, 1, -119743⟩,
   ⟨0x1d790, 0x1d7a0, 1, -119807⟩, ⟨0x1d7a2, 0x1d7a8, 1, -119807⟩, ⟨0x1d7aa, 0x1d7c2, 1, -119801⟩,
   ⟨0x1d7ca, 0x1d7cb, 1, -119790⟩, ⟨0x1d7ce, 0x1d7d7, 1, -120734⟩, ⟨0x1d7d8, 0x1d7e1, 1, -120744⟩,
   ⟨0x1d7e2, 0x1d7eb, 1, -120754⟩, ⟨0x1d7ec, 0x1d7f5, 1, -120764⟩, ⟨0x1d7f6, 0x1d7ff, 1, -120774⟩,
   ⟨0x1ee00, 0x1ee01, 1, -124889⟩, ⟨0x1ee0a, 0x1ee0d, 1, -124871⟩, ⟨0x1ee15, 0x1ee16, 1, -124907⟩,
   ⟨0x1ee2a, 0x1ee2d, 1, -124903⟩, ⟨0x1ee35, 0x1ee36, 1, -124939⟩, ⟨0x1ee6c, 0x1ee6d, 1, -124967⟩,
   ⟨0x1ee75, 0x1ee76, 1, -125003⟩, ⟨0x1ee80, 0x1ee81, 1, -125017⟩, ⟨0x1ee84, 0x1ee85, 1, -124989⟩,
   ⟨0x1ee8b, 0x1ee8d, 1, -124999⟩, ⟨0x1ee95, 0x1ee96, 1, -125035⟩, ⟨0x1eeab, 0x1eead, 1, -125031⟩,
   ⟨0x1eeb5, 0x1eeb6, 1, -125067⟩, ⟨0x1fbf0, 0x1fbf9, 1, -129984⟩, ⟨0x2f829, 0x2f82a, 1, -173348⟩,
   ⟨0x2f881, 0x2f882, 1, -170656⟩, ⟨0x2f8f5, 0x2f8f6, 1, -167227⟩, ⟨0x2f945, 0x2f946, 1, -164391⟩,
   ⟨0x2f9e8, 0x2f9e9, 1, -157457⟩]

/-- Other identifier characters with another form, below U+2000; the code point, then its
expansion, six hexadecimal digits each. -/
def lowExpansions : List Nat :=
  [0x0000aa000061, 0x0000b50003bc, 0x0000ba00006f, 0x0000c0000041000300, 0x0000c1000041000301,
   0x0000c2000041000302, 0x0000c3000041000303, 0x0000c4000041000308, 0x0000c500004100030a,
   0x0000c7000043000327, 0x0000c8000045000300, 0x0000c9000045000301, 0x0000ca000045000302,
   0x0000cb000045000308, 0x0000cc000049000300, 0x0000cd000049000301, 0x0000ce000049000302,
   0x0000cf000049000308, 0x0000d100004e000303, 0x0000d200004f000300, 0x0000d300004f000301,
   0x0000d400004f000302, 0x0000d500004f000303, 0x0000d600004f000308, 0x0000d9000055000300,
   0x0000da000055000301, 0x0000db000055000302, 0x0000dc000055000308, 0x0000dd000059000301,
   0x0000e0000061000300, 0x0000e1000061000301, 0x0000e2000061000302, 0x0000e3000061000303,
   0x0000e4000061000308, 0x0000e500006100030a, 0x0000e7000063000327, 0x0000e8000065000300,
   0x0000e9000065000301, 0x0000ea000065000302, 0x0000eb000065000308, 0x0000ec000069000300,
   0x0000ed000069000301, 0x0000ee000069000302, 0x0000ef000069000308, 0x0000f100006e000303,
   0x0000f200006f000300, 0x0000f300006f000301, 0x0000f400006f000302, 0x0000f500006f000303,
   0x0000f600006f000308, 0x0000f9000075000300, 0x0000fa000075000301, 0x0000fb000075000302,
   0x0000fc000075000308, 0x0000fd000079000301, 0x0000ff000079000308, 0x000100000041000304,
   0x000101000061000304, 0x000102000041000306, 0x000103000061000306, 0x000104000041000328,
   0x000105000061000328, 0x000106000043000301, 0x000107000063000301, 0x000108000043000302,
   0x000109000063000302, 0x00010a000043000307, 0x00010b000063000307, 0x00010c00004300030c,
   0x00010d00006300030c, 0x00010e00004400030c, 0x00010f00006400030c, 0x000112000045000304,
   0x000113000065000304, 0x000114000045000306, 0x000115000065000306, 0x000116000045000307,
   0x000117000065000307, 0x000118000045000328, 0x000119000065000328, 0x00011a00004500030c,
   0x00011b00006500030c, 0x00011c000047000302, 0x00011d000067000302, 0x00011e000047000306,
   0x00011f000067000306, 0x000120000047000307, 0x000121000067000307, 0x000122000047000327,
   0x000123000067000327, 0x000124000048000302, 0x000125000068000302, 0x000128000049000303,
   0x000129000069000303, 0x00012a000049000304, 0x00012b000069000304, 0x00012c000049000306,
   0x00012d000069000306, 0x00012e000049000328, 0x00012f000069000328, 0x000130000049000307,
   0x00013200004900004a, 0x00013300006900006a, 0x00013400004a000302, 0x00013500006a000302,
   0x00013600004b000327, 0x00013700006b000327, 0x00013900004c000301, 0x00013a00006c000301,
   0x00013b00004c000327, 0x00013c00006c000327, 0x00013d00004c00030c, 0x00013e00006c00030c,
   0x00013f00004c0000b7, 0x00014000006c0000b7, 0x00014300004e000301, 0x00014400006e000301,
   0x00014500004e000327, 0x00014600006e000327, 0x00014700004e00030c, 0x00014800006e00030c,
   0x0001490002bc00006e, 0x00014c00004f000304, 0x00014d00006f000304, 0x00014e00004f000306,
   0x00014f00006f000306, 0x00015000004f00030b, 0x00015100006f00030b, 0x000154000052000301,
   0x000155000072000301, 0x000156000052000327, 0x000157000072000327, 0x00015800005200030c,
   0x00015900007200030c, 0x00015a000053000301, 0x00015b000073000301, 0x00015c000053000302,
   0x00015d000073000302, 0x00015e000053000327, 0x00015f000073000327, 0x00016000005300030c,
   0x00016100007300030c, 0x000162000054000327, 0x000163000074000327, 0x00016400005400030c,
   0x00016500007400030c, 0x000168000055000303, 0x000169000075000303, 0x00016a000055000304,
   0x00016b000075000304, 0x00016c000055000306, 0x00016d000075000306, 0x00016e00005500030a,
   0x00016f00007500030a, 0x00017000005500030b, 0x00017100007500030b, 0x000172000055000328,
   0x000173000075000328, 0x000174000057000302, 0x000175000077000302, 0x000176000059000302,
   0x000177000079000302, 0x000178000059000308, 0x00017900005a000301, 0x00017a00007a000301,
   0x00017b00005a000307, 0x00017c00007a000307, 0x00017d00005a00030c, 0x00017e00007a00030c,
   0x00017f000073, 0x0001a000004f00031b, 0x0001a100006f00031b, 0x0001af00005500031b,
   0x0001b000007500031b, 0x0001c400004400005a00030c, 0x0001c500004400007a00030c,
   0x0001c600006400007a00030c, 0x0001c700004c00004a, 0x0001c800004c00006a, 0x0001c900006c00006a,
   0x0001ca00004e00004a, 0x0001cb00004e00006a, 0x0001cc00006e00006a, 0x0001cd00004100030c,
   0x0001ce00006100030c, 0x0001cf00004900030c, 0x0001d000006900030c, 0x0001d100004f00030c,
   0x0001d200006f00030c, 0x0001d300005500030c, 0x0001d400007500030c, 0x0001d5000055000308000304,
   0x0001d6000075000308000304, 0x0001d7000055000308000301, 0x0001d8000075000308000301,
   0x0001d900005500030800030c, 0x0001da00007500030800030c, 0x0001db000055000308000300,
   0x0001dc000075000308000300, 0x0001de000041000308000304, 0x0001df000061000308000304,
   0x0001e0000041000307000304, 0x0001e1000061000307000304, 0x0001e20000c6000304,
   0x0001e30000e6000304, 0x0001e600004700030c, 0x0001e700006700030c, 0x0001e800004b00030c,
   0x0001e900006b00030c, 0x0001ea00004f000328, 0x0001eb00006f000328, 0x0001ec00004f000328000304,
   0x0001ed00006f000328000304, 0x0001ee0001b700030c, 0x0001ef00029200030c, 0x0001f000006a00030c,
   0x0001f100004400005a, 0x0001f200004400007a, 0x0001f300006400007a, 0x0001f4000047000301,
   0x0001f5000067000301, 0x0001f800004e000300, 0x0001f900006e000300, 0x0001fa00004100030a000301,
   0x0001fb00006100030a000301, 0x0001fc0000c6000301, 0x0001fd0000e6000301, 0x0001fe0000d8000301,
   0x0001ff0000f8000301, 0x00020000004100030f, 0x00020100006100030f, 0x000202000041000311,
   0x000203000061000311, 0x00020400004500030f, 0x00020500006500030f, 0x000206000045000311,
   0x000207000065000311, 0x00020800004900030f, 0x00020900006900030f, 0x00020a000049000311,
   0x00020b000069000311, 0x00020c00004f00030f, 0x00020d00006f00030f, 0x00020e00004f000311,
   0x00020f00006f000311, 0x00021000005200030f, 0x00021100007200030f, 0x000212000052000311,
   0x000213000072000311, 0x00021400005500030f, 0x00021500007500030f, 0x000216000055000311,
   0x000217000075000311, 0x000218000053000326, 0x000219000073000326, 0x00021a000054000326,
   0x00021b000074000326, 0x00021e00004800030c, 0x00021f00006800030c, 0x000226000041000307,
   0x000227000061000307, 0x000228000045000327, 0x000229000065000327, 0x00022a00004f000308000304,
   0x00022b00006f000308000304, 0x00022c00004f000303000304, 0x00022d00006f000303000304,
   0x00022e00004f000307, 0x00022f00006f000307, 0x00023000004f000307000304,
   0x00023100006f000307000304, 0x000232000059000304, 0x000233000079000304, 0x0002b0000068,
   0x0002b1000266, 0x0002b200006a, 0x0002b3000072, 0x0002b4000279, 0x0002b500027b, 0x0002b6000281,
   0x0002b7000077, 0x0002b8000079, 0x0002e0000263, 0x0002e100006c, 0x0002e2000073, 0x0002e3000078,
   0x0002e4000295, 0x000343000313, 0x000344000308000301, 0x0003740002b9, 0x000386000391000301,
   0x0003870000b7, 0x000388000395000301, 0x000389000397000301, 0x00038a000399000301,
   0x00038c00039f000301, 0x00038e0003a5000301, 0x00038f0003a9000301, 0x0003900003b9000308000301,
   0x0003aa000399000308, 0x0003ab0003a5000308, 0x0003ac0003b1000301, 0x0003ad0003b5000301,
   0x0003ae0003b7000301, 0x0003af0003b9000301, 0x0003b00003c5000308000301, 0x0003ca0003b9000308,
   0x0003cb0003c5000308, 0x0003cc0003bf000301, 0x0003cd0003c5000301, 0x0003ce0003c9000301,
   0x0003d00003b2, 0x0003d10003b8, 0x0003d20003a5, 0x0003d30003a5000301, 0x0003d40003a5000308,
   0x0003d50003c6, 0x0003d60003c0, 0x0003f00003ba, 0x0003f4000398, 0x0003f50003b5, 0x0003f90003a3,
   0x000400000415000300, 0x000401000415000308, 0x000403000413000301, 0x000407000406000308,
   0x00040c00041a000301, 0x00040d000418000300, 0x00040e000423000306, 0x000419000418000306,
   0x000439000438000306, 0x000450000435000300, 0x000451000435000308, 0x000453000433000301,
   0x000457000456000308, 0x00045c00043a000301, 0x00045d000438000300, 0x00045e000443000306,
   0x00047600047400030f, 0x00047700047500030f, 0x0004c1000416000306, 0x0004c2000436000306,
   0x0004d0000410000306, 0x0004d1000430000306, 0x0004d2000410000308, 0x0004d3000430000308,
   0x0004d6000415000306, 0x0004d7000435000306, 0x0004da0004d8000308, 0x0004db0004d9000308,
   0x0004dc000416000308, 0x0004dd000436000308, 0x0004de000417000308, 0x0004df000437000308,
   0x0004e2000418000304, 0x0004e3000438000304, 0x0004e4000418000308, 0x0004e5000438000308,
   0x0004e600041e000308, 0x0004e700043e000308, 0x0004ea0004e8000308, 0x0004eb0004e9000308,
   0x0004ec00042d000308, 0x0004ed00044d000308, 0x0004ee000423000304, 0x0004ef000443000304,
   0x0004f0000423000308, 0x0004f1000443000308, 0x0004f200042300030b, 0x0004f300044300030b,
   0x0004f4000427000308, 0x0004f5000447000308, 0x0004f800042b000308, 0x0004f900044b000308,
   0x000587000565000582, 0x000622000627000653, 0x000623000627000654, 0x000624000648000654,
   0x000625000627000655, 0x00062600064a000654, 0x000675000627000674, 0x000676000648000674,
   0x0006770006c7000674, 0x00067800064a000674, 0x0006c00006d5000654, 0x0006c20006c1000654,
   0x0006d30006d2000654, 0x00092900092800093c, 0x00093100093000093c, 0x00093400093300093c,
   0x00095800091500093c, 0x00095900091600093c, 0x00095a00091700093c, 0x00095b00091c00093c,
   0x00095c00092100093c, 0x00095d00092200093c, 0x00095e00092b00093c, 0x00095f00092f00093c,
   0x0009cb0009c70009be, 0x0009cc0009c70009d7, 0x0009dc0009a10009bc, 0x0009dd0009a20009bc,
   0x0009df0009af0009bc, 0x000a33000a32000a3c, 0x000a36000a38000a3c, 0x000a59000a16000a3c,
   0x000a5a000a17000a3c, 0x000a5b000a1c000a3c, 0x000a5e000a2b000a3c, 0x000b48000b47000b56,
   0x000b4b000b47000b3e, 0x000b4c000b47000b57, 0x000b5c000b21000b3c, 0x000b5d000b22000b3c,
   0x000b94000b92000bd7, 0x000bca000bc6000bbe, 0x000bcb000bc7000bbe, 0x000bcc000bc6000bd7,
   0x000c48000c46000c56, 0x000cc0000cbf000cd5, 0x000cc7000cc6000cd5, 0x000cc8000cc6000cd6,
   0x000cca000cc6000cc2, 0x000ccb000cc6000cc2000cd5, 0x000d4a000d46000d3e, 0x000d4b000d47000d3e,
   0x000d4c000d46000d57, 0x000dda000dd9000dca, 0x000ddc000dd9000dcf, 0x000ddd000dd9000dcf000dca,
   0x000dde000dd9000ddf, 0x000e33000e4d000e32, 0x000eb3000ecd000eb2, 0x000edc000eab000e99,
   0x000edd000eab000ea1, 0x000f43000f42000fb7, 0x000f4d000f4c000fb7, 0x000f52000f51000fb7,
   0x000f57000f56000fb7, 0x000f5c000f5b000fb7, 0x000f69000f40000fb5, 0x000f73000f71000f72,
   0x000f75000f71000f74, 0x000f76000fb2000f80, 0x000f77000fb2000f71000f80, 0x000f78000fb3000f80,
   0x000f79000fb3000f71000f80, 0x000f81000f71000f80, 0x000f93000f92000fb7, 0x000f9d000f9c000fb7,
   0x000fa2000fa1000fb7, 0x000fa7000fa6000fb7, 0x000fac000fab000fb7, 0x000fb9000f90000fb5,
   0x00102600102500102e, 0x0010fc0010dc, 0x001b06001b05001b35, 0x001b08001b07001b35,
   0x001b0a001b09001b35, 0x001b0c001b0b001b35, 0x001b0e001b0d001b35, 0x001b12001b11001b35,
   0x001b3b001b3a001b35, 0x001b3d001b3c001b35, 0x001b40001b3e001b35, 0x001b41001b3f001b35,
   0x001b43001b42001b35, 0x001d2c000041, 0x001d2d0000c6, 0x001d2e000042, 0x001d3200018e,
   0x001d3c00004f, 0x001d3d000222, 0x001d3e000050, 0x001d3f000052, 0x001d42000057, 0x001d43000061,
   0x001d46001d02, 0x001d47000062, 0x001d4a000259, 0x001d4d000067, 0x001d4f00006b, 0x001d5000006d,
   0x001d5100014b, 0x001d5200006f, 0x001d53000254, 0x001d56000070, 0x001d59001d1d, 0x001d5a00026f,
   0x001d5b000076, 0x001d5c001d25, 0x001d62000069, 0x001d63000072, 0x001d680003c1, 0x001d7800043d,
   0x001d9b000252, 0x001d9c000063, 0x001d9d000255, 0x001d9e0000f0, 0x001d9f00025c, 0x001da0000066,
   0x001da100025f, 0x001da2000261, 0x001da3000265, 0x001da7001d7b, 0x001da800029d, 0x001da900026d,
   0x001daa001d85, 0x001dab00029f, 0x001dac000271, 0x001dad000270, 0x001db2000278, 0x001db50001ab,
   0x001db8001d1c, 0x001dbb00007a, 0x001dbf0003b8, 0x001e00000041000325, 0x001e01000061000325,
   0x001e02000042000307, 0x001e03000062000307, 0x001e04000042000323, 0x001e05000062000323,
   0x001e06000042000331, 0x001e07000062000331, 0x001e08000043000327000301,
   0x001e09000063000327000301, 0x001e0a000044000307, 0x001e0b000064000307, 0x001e0c000044000323,
   0x001e0d000064000323, 0x001e0e000044000331, 0x001e0f000064000331, 0x001e10000044000327,
   0x001e11000064000327, 0x001e1200004400032d, 0x001e1300006400032d, 0x001e14000045000304000300,
   0x001e15000065000304000300, 0x001e16000045000304000301, 0x001e17000065000304000301,
   0x001e1800004500032d, 0x001e1900006500032d, 0x001e1a000045000330, 0x001e1b000065000330,
   0x001e1c000045000327000306, 0x001e1d000065000327000306, 0x001e1e000046000307,
   0x001e1f000066000307, 0x001e20000047000304, 0x001e21000067000304, 0x001e22000048000307,
   0x001e23000068000307, 0x001e24000048000323, 0x001e25000068000323, 0x001e26000048000308,
   0x001e27000068000308, 0x001e28000048000327, 0x001e29000068000327, 0x001e2a00004800032e,
   0x001e2b00006800032e, 0x001e2c000049000330, 0x001e2d000069000330, 0x001e2e000049000308000301,
   0x001e2f000069000308000301, 0x001e3000004b000301, 0x001e3100006b000301, 0x001e3200004b000323,
   0x001e3300006b000323, 0x001e3400004b000331, 0x001e3500006b000331, 0x001e3600004c000323,
   0x001e3700006c000323, 0x001e3800004c000323000304, 0x001e3900006c000323000304,
   0x001e3a00004c000331, 0x001e3b00006c000331, 0x001e3c00004c00032d, 0x001e3d00006c00032d,
   0x001e3e00004d000301, 0x001e3f00006d000301, 0x001e4000004d000307, 0x001e4100006d000307,
   0x001e4200004d000323, 0x001e4300006d000323, 0x001e4400004e000307, 0x001e4500006e000307,
   0x001e4600004e000323, 0x001e4700006e000323, 0x001e4800004e000331, 0x001e4900006e000331,
   0x001e4a00004e00032d, 0x001e4b00006e00032d, 0x001e4c00004f000303000301,
   0x001e4d00006f000303000301, 0x001e4e00004f000303000308, 0x001e4f00006f000303000308,
   0x001e5000004f000304000300, 0x001e5100006f000304000300, 0x001e5200004f000304000301,
   0x001e5300006f000304000301, 0x001e54000050000301, 0x001e55000070000301, 0x001e56000050000307,
   0x001e57000070000307, 0x001e58000052000307, 0x001e59000072000307, 0x001e5a000052000323,
   0x001e5b000072000323, 0x001e5c000052000323000304, 0x001e5d000072000323000304,
   0x001e5e000052000331, 0x001e5f000072000331, 0x001e60000053000307, 0x001e61000073000307,
   0x001e62000053000323, 0x001e63000073000323, 0x001e64000053000301000307,
   0x001e65000073000301000307, 0x001e6600005300030c000307, 0x001e6700007300030c000307,
   0x001e68000053000323000307, 0x001e69000073000323000307, 0x001e6a000054000307,
   0x001e6b000074000307, 0x001e6c000054000323, 0x001e6d000074000323, 0x001e6e000054000331,
   0x001e6f000074000331, 0x001e7000005400032d, 0x001e7100007400032d, 0x001e72000055000324,
   0x001e73000075000324, 0x001e74000055000330, 0x001e75000075000330, 0x001e7600005500032d,
   0x001e7700007500032d, 0x001e78000055000303000301, 0x001e79000075000303000301,
   0x001e7a000055000304000308, 0x001e7b000075000304000308, 0x001e7c000056000303,
   0x001e7d000076000303, 0x001e7e000056000323, 0x001e7f000076000323, 0x001e80000057000300,
   0x001e81000077000300, 0x001e82000057000301, 0x001e83000077000301, 0x001e84000057000308,
   0x001e85000077000308, 0x001e86000057000307, 0x001e87000077000307, 0x001e88000057000323,
   0x001e89000077000323, 0x001e8a000058000307, 0x001e8b000078000307, 0x001e8c000058000308,
   0x001e8d000078000308, 0x001e8e000059000307, 0x001e8f000079000307, 0x001e9000005a000302,
   0x001e9100007a000302, 0x001e9200005a000323, 0x001e9300007a000323, 0x001e9400005a000331,
   0x001e9500007a000331, 0x001e96000068000331, 0x001e97000074000308, 0x001e9800007700030a,
   0x001e9900007900030a, 0x001e9a0000610002be, 0x001e9b000073000307, 0x001ea0000041000323,
   0x001ea1000061000323, 0x001ea2000041000309, 0x001ea3000061000309, 0x001ea4000041000302000301,
   0x001ea5000061000302000301, 0x001ea6000041000302000300, 0x001ea7000061000302000300,
   0x001ea8000041000302000309, 0x001ea9000061000302000309, 0x001eaa000041000302000303,
   0x001eab000061000302000303, 0x001eac000041000323000302, 0x001ead000061000323000302,
   0x001eae000041000306000301, 0x001eaf000061000306000301, 0x001eb0000041000306000300,
   0x001eb1000061000306000300, 0x001eb2000041000306000309, 0x001eb3000061000306000309,
   0x001eb4000041000306000303, 0x001eb5000061000306000303, 0x001eb6000041000323000306,
   0x001eb7000061000323000306, 0x001eb8000045000323, 0x001eb9000065000323, 0x001eba000045000309,
   0x001ebb000065000309, 0x001ebc000045000303, 0x001ebd000065000303, 0x001ebe000045000302000301,
   0x001ebf000065000302000301, 0x001ec0000045000302000300, 0x001ec1000065000302000300,
   0x001ec2000045000302000309, 0x001ec3000065000302000309, 0x001ec4000045000302000303,
   0x001ec5000065000302000303, 0x001ec6000045000323000302, 0x001ec7000065000323000302,
   0x001ec8000049000309, 0x001ec9000069000309, 0x001eca000049000323, 0x001ecb000069000323,
   0x001ecc00004f000323, 0x001ecd00006f000323, 0x001ece00004f000309, 0x001ecf00006f000309,
   0x001ed000004f000302000301, 0x001ed100006f000302000301, 0x001ed200004f000302000300,
   0x001ed300006f000302000300, 0x001ed400004f000302000309, 0x001ed500006f000302000309,
   0x001ed600004f000302000303, 0x001ed700006f000302000303, 0x001ed800004f000323000302,
   0x001ed900006f000323000302, 0x001eda00004f00031b000301, 0x001edb00006f00031b000301,
   0x001edc00004f00031b000300, 0x001edd00006f00031b000300, 0x001ede00004f00031b000309,
   0x001edf00006f00031b000309, 0x001ee000004f00031b000303, 0x001ee100006f00031b000303,
   0x001ee200004f00031b000323, 0x001ee300006f00031b000323, 0x001ee4000055000323,
   0x001ee5000075000323, 0x001ee6000055000309, 0x001ee7000075000309, 0x001ee800005500031b000301,
   0x001ee900007500031b000301, 0x001eea00005500031b000300, 0x001eeb00007500031b000300,
   0x001eec00005500031b000309, 0x001eed00007500031b000309, 0x001eee00005500031b000303,
   0x001eef00007500031b000303, 0x001ef000005500031b000323, 0x001ef100007500031b000323,
   0x001ef2000059000300, 0x001ef3000079000300, 0x001ef4000059000323, 0x001ef5000079000323,
   0x001ef6000059000309, 0x001ef7000079000309, 0x001ef8000059000303, 0x001ef9000079000303,
   0x001f000003b1000313, 0x001f010003b1000314, 0x001f020003b1000313000300,
   0x001f030003b1000314000300, 0x001f040003b1000313000301, 0x001f050003b1000314000301,
   0x001f060003b1000313000342, 0x001f070003b1000314000342, 0x001f08000391000313,
   0x001f09000391000314, 0x001f0a000391000313000300, 0x001f0b000391000314000300,
   0x001f0c000391000313000301, 0x001f0d000391000314000301, 0x001f0e000391000313000342,
   0x001f0f000391000314000342, 0x001f100003b5000313, 0x001f110003b5000314,
   0x001f120003b5000313000300, 0x001f130003b5000314000300, 0x001f140003b5000313000301,
   0x001f150003b5000314000301, 0x001f18000395000313, 0x001f19000395000314,
   0x001f1a000395000313000300, 0x001f1b000395000314000300, 0x001f1c000395000313000301,
   0x001f1d000395000314000301, 0x001f200003b7000313, 0x001f210003b7000314,
   0x001f220003b7000313000300, 0x001f230003b7000314000300, 0x001f240003b7000313000301,
   0x001f250003b7000314000301, 0x001f260003b7000313000342, 0x001f270003b7000314000342,
   0x001f28000397000313, 0x001f29000397000314, 0x001f2a000397000313000300,
   0x001f2b000397000314000300, 0x001f2c000397000313000301, 0x001f2d000397000314000301,
   0x001f2e000397000313000342, 0x001f2f000397000314000342, 0x001f300003b9000313,
   0x001f310003b9000314, 0x001f320003b9000313000300, 0x001f330003b9000314000300,
   0x001f340003b9000313000301, 0x001f350003b9000314000301, 0x001f360003b9000313000342,
   0x001f370003b9000314000342, 0x001f38000399000313, 0x001f39000399000314,
   0x001f3a000399000313000300, 0x001f3b000399000314000300, 0x001f3c000399000313000301,
   0x001f3d000399000314000301, 0x001f3e000399000313000342, 0x001f3f000399000314000342,
   0x001f400003bf000313, 0x001f410003bf000314, 0x001f420003bf000313000300,
   0x001f430003bf000314000300, 0x001f440003bf000313000301, 0x001f450003bf000314000301,
   0x001f4800039f000313, 0x001f4900039f000314, 0x001f4a00039f000313000300,
   0x001f4b00039f000314000300, 0x001f4c00039f000313000301, 0x001f4d00039f000314000301,
   0x001f500003c5000313, 0x001f510003c5000314, 0x001f520003c5000313000300,
   0x001f530003c5000314000300, 0x001f540003c5000313000301, 0x001f550003c5000314000301,
   0x001f560003c5000313000342, 0x001f570003c5000314000342, 0x001f590003a5000314,
   0x001f5b0003a5000314000300, 0x001f5d0003a5000314000301, 0x001f5f0003a5000314000342,
   0x001f600003c9000313, 0x001f610003c9000314, 0x001f620003c9000313000300,
   0x001f630003c9000314000300, 0x001f640003c9000313000301, 0x001f650003c9000314000301,
   0x001f660003c9000313000342, 0x001f670003c9000314000342, 0x001f680003a9000313,
   0x001f690003a9000314, 0x001f6a0003a9000313000300, 0x001f6b0003a9000314000300,
   0x001f6c0003a9000313000301, 0x001f6d0003a9000314000301, 0x001f6e0003a9000313000342,
   0x001f6f0003a9000314000342, 0x001f700003b1000300, 0x001f710003b1000301, 0x001f720003b5000300,
   0x001f730003b5000301, 0x001f740003b7000300, 0x001f750003b7000301, 0x001f760003b9000300,
   0x001f770003b9000301, 0x001f780003bf000300, 0x001f790003bf000301, 0x001f7a0003c5000300,
   0x001f7b0003c5000301, 0x001f7c0003c9000300, 0x001f7d0003c9000301, 0x001f800003b1000313000345,
   0x001f810003b1000314000345, 0x001f820003b1000313000300000345, 0x001f830003b1000314000300000345,
   0x001f840003b1000313000301000345, 0x001f850003b1000314000301000345,
   0x001f860003b1000313000342000345, 0x001f870003b1000314000342000345, 0x001f88000391000313000345,
   0x001f89000391000314000345, 0x001f8a000391000313000300000345, 0x001f8b000391000314000300000345,
   0x001f8c000391000313000301000345, 0x001f8d000391000314000301000345,
   0x001f8e000391000313000342000345, 0x001f8f000391000314000342000345, 0x001f900003b7000313000345,
   0x001f910003b7000314000345, 0x001f920003b7000313000300000345, 0x001f930003b7000314000300000345,
   0x001f940003b7000313000301000345, 0x001f950003b7000314000301000345,
   0x001f960003b7000313000342000345, 0x001f970003b7000314000342000345, 0x001f98000397000313000345,
   0x001f99000397000314000345, 0x001f9a000397000313000300000345, 0x001f9b000397000314000300000345,
   0x001f9c000397000313000301000345, 0x001f9d000397000314000301000345,
   0x001f9e000397000313000342000345, 0x001f9f000397000314000342000345, 0x001fa00003c9000313000345,
   0x001fa10003c9000314000345, 0x001fa20003c9000313000300000345, 0x001fa30003c9000314000300000345,
   0x001fa40003c9000313000301000345, 0x001fa50003c9000314000301000345,
   0x001fa60003c9000313000342000345, 0x001fa70003c9000314000342000345, 0x001fa80003a9000313000345,
   0x001fa90003a9000314000345, 0x001faa0003a9000313000300000345, 0x001fab0003a9000314000300000345,
   0x001fac0003a9000313000301000345, 0x001fad0003a9000314000301000345,
   0x001fae0003a9000313000342000345, 0x001faf0003a9000314000342000345, 0x001fb00003b1000306,
   0x001fb10003b1000304, 0x001fb20003b1000300000345, 0x001fb30003b1000345,
   0x001fb40003b1000301000345, 0x001fb60003b1000342, 0x001fb70003b1000342000345,
   0x001fb8000391000306, 0x001fb9000391000304, 0x001fba000391000300, 0x001fbb000391000301,
   0x001fbc000391000345, 0x001fbe0003b9, 0x001fc20003b7000300000345, 0x001fc30003b7000345,
   0x001fc40003b7000301000345, 0x001fc60003b7000342, 0x001fc70003b7000342000345,
   0x001fc8000395000300, 0x001fc9000395000301, 0x001fca000397000300, 0x001fcb000397000301,
   0x001fcc000397000345, 0x001fd00003b9000306, 0x001fd10003b9000304, 0x001fd20003b9000308000300,
   0x001fd30003b9000308000301, 0x001fd60003b9000342, 0x001fd70003b9000308000342,
   0x001fd8000399000306, 0x001fd9000399000304, 0x001fda000399000300, 0x001fdb000399000301,
   0x001fe00003c5000306, 0x001fe10003c5000304, 0x001fe20003c5000308000300,
   0x001fe30003c5000308000301, 0x001fe40003c1000313, 0x001fe50003c1000314, 0x001fe60003c5000342,
   0x001fe70003c5000308000342, 0x001fe80003a5000306, 0x001fe90003a5000304, 0x001fea0003a5000300,
   0x001feb0003a5000301, 0x001fec0003a1000314, 0x001ff20003c9000300000345, 0x001ff30003c9000345,
   0x001ff40003c9000301000345, 0x001ff60003c9000342, 0x001ff70003c9000342000345,
   0x001ff800039f000300, 0x001ff900039f000301, 0x001ffa0003a9000300, 0x001ffb0003a9000301,
   0x001ffc0003a9000345]

/-- The same from U+2000 to U+FAFF; the code point, then its expansion, six hexadecimal digits
each. -/
def middleExpansions : List Nat :=
  [0x002071000069, 0x00207f00006e, 0x002090000061, 0x002091000065, 0x00209200006f, 0x002093000078,
   0x002094000259, 0x002095000068, 0x00209a000070, 0x002102000043, 0x002107000190, 0x00210a000067,
   0x00210b000048, 0x00210c000048, 0x00210d000048, 0x00210e000068, 0x00210f000127, 0x002110000049,
   0x002111000049, 0x00211200004c, 0x00211300006c, 0x00211500004e, 0x00211c000052, 0x00211d000052,
   0x00212400005a, 0x0021260003a9, 0x00212800005a, 0x00212a00004b, 0x00212b00004100030a,
   0x00212f000065, 0x00213300004d, 0x00213400006f, 0x002139000069, 0x00213c0003c0, 0x00213d0003b3,
   0x00213e000393, 0x00213f0003a0, 0x002145000044, 0x002160000049, 0x002161000049000049,
   0x002162000049000049000049, 0x002163000049000056, 0x002164000056, 0x002165000056000049,
   0x002166000056000049000049, 0x002167000056000049000049000049, 0x002168000049000058,
   0x002169000058, 0x00216a000058000049, 0x00216b000058000049000049, 0x00216c00004c, 0x00216f00004d,
   0x002170000069, 0x002171000069000069, 0x002172000069000069000069, 0x002173000069000076,
   0x002174000076, 0x002175000076000069, 0x002176000076000069000069,
   0x002177000076000069000069000069, 0x002178000069000078, 0x002179000078, 0x00217a000078000069,
   0x00217b000078000069000069, 0x00217c00006c, 0x00217f00006d, 0x002c7c00006a, 0x002c7d000056,
   0x002d6f002d61, 0x003038005341, 0x00304c00304b003099, 0x00304e00304d003099, 0x00305000304f003099,
   0x003052003051003099, 0x003054003053003099, 0x003056003055003099, 0x003058003057003099,
   0x00305a003059003099, 0x00305c00305b003099, 0x00305e00305d003099, 0x00306000305f003099,
   0x003062003061003099, 0x003065003064003099, 0x003067003066003099, 0x003069003068003099,
   0x00307000306f003099, 0x00307100306f00309a, 0x003073003072003099, 0x00307400307200309a,
   0x003076003075003099, 0x00307700307500309a, 0x003079003078003099, 0x00307a00307800309a,
   0x00307c00307b003099, 0x00307d00307b00309a, 0x003094003046003099, 0x00309e00309d003099,
   0x00309f00308800308a, 0x0030ac0030ab003099, 0x0030ae0030ad003099, 0x0030b00030af003099,
   0x0030b20030b1003099, 0x0030b40030b3003099, 0x0030b60030b5003099, 0x0030b80030b7003099,
   0x0030ba0030b9003099, 0x0030bc0030bb003099, 0x0030be0030bd003099, 0x0030c00030bf003099,
   0x0030c20030c1003099, 0x0030c50030c4003099, 0x0030c70030c6003099, 0x0030c90030c8003099,
   0x0030d00030cf003099, 0x0030d10030cf00309a, 0x0030d30030d2003099, 0x0030d40030d200309a,
   0x0030d60030d5003099, 0x0030d70030d500309a, 0x0030d90030d8003099, 0x0030da0030d800309a,
   0x0030dc0030db003099, 0x0030dd0030db00309a, 0x0030f40030a6003099, 0x0030f70030ef003099,
   0x0030f80030f0003099, 0x0030f90030f1003099, 0x0030fa0030f2003099, 0x0030fe0030fd003099,
   0x0030ff0030b30030c8, 0x0031330011aa, 0x003134001102, 0x00314000111a, 0x003144001121,
   0x003164001160, 0x0031690011cc, 0x00316a0011ce, 0x00316b0011d3, 0x00316c0011d7, 0x00316d0011d9,
   0x00316e00111c, 0x00316f0011dd, 0x0031700011df, 0x003173001120, 0x003176001127, 0x003177001129,
   0x00317d001132, 0x00317e001136, 0x00317f001140, 0x003180001147, 0x00318100114c, 0x003189001188,
   0x00318c001194, 0x00318d00119e, 0x00318e0011a1, 0x00a69c00044a, 0x00a69d00044c, 0x00a77000a76f,
   0x00a7f2000043, 0x00a7f3000046, 0x00a7f4000051, 0x00a7f8000126, 0x00a7f9000153, 0x00ab5c00a727,
   0x00ab5d00ab37, 0x00ab5e00026b, 0x00ab5f00ab52, 0x00ab6900028d, 0x00f900008c48, 0x00f9010066f4,
   0x00f902008eca, 0x00f903008cc8, 0x00f904006ed1, 0x00f905004e32, 0x00f9060053e5, 0x00f907009f9c,
   0x00f908009f9c, 0x00f909005951, 0x00f90a0091d1, 0x00f90b005587, 0x00f90c005948, 0x00f90d0061f6,
   0x00f90e007669, 0x00f90f007f85, 0x00f91000863f, 0x00f9110087ba, 0x00f9120088f8, 0x00f91300908f,
   0x00f914006a02, 0x00f915006d1b, 0x00f9160070d9, 0x00f9170073de, 0x00f91800843d, 0x00f91900916a,
   0x00f91a0099f1, 0x00f91b004e82, 0x00f91c005375, 0x00f91d006b04, 0x00f91e00721b, 0x00f91f00862d,
   0x00f920009e1e, 0x00f921005d50, 0x00f922006feb, 0x00f9230085cd, 0x00f924008964, 0x00f9250062c9,
   0x00f9260081d8, 0x00f92700881f, 0x00f928005eca, 0x00f929006717, 0x00f92a006d6a, 0x00f92b0072fc,
   0x00f92c0090ce, 0x00f92d004f86, 0x00f92e0051b7, 0x00f92f0052de, 0x00f9300064c4, 0x00f931006ad3,
   0x00f932007210, 0x00f9330076e7, 0x00f934008001, 0x00f935008606, 0x00f93600865c, 0x00f937008def,
   0x00f938009732, 0x00f939009b6f, 0x00f93a009dfa, 0x00f93b00788c, 0x00f93c00797f, 0x00f93d007da0,
   0x00f93e0083c9, 0x00f93f009304, 0x00f940009e7f, 0x00f941008ad6, 0x00f9420058df, 0x00f943005f04,
   0x00f944007c60, 0x00f94500807e, 0x00f946007262, 0x00f9470078ca, 0x00f948008cc2, 0x00f9490096f7,
   0x00f94a0058d8, 0x00f94b005c62, 0x00f94c006a13, 0x00f94d006dda, 0x00f94e006f0f, 0x00f94f007d2f,
   0x00f950007e37, 0x00f95100964b, 0x00f9520052d2, 0x00f95300808b, 0x00f9540051dc, 0x00f9550051cc,
   0x00f956007a1c, 0x00f957007dbe, 0x00f9580083f1, 0x00f959009675, 0x00f95a008b80, 0x00f95b0062cf,
   0x00f95c006a02, 0x00f95d008afe, 0x00f95e004e39, 0x00f95f005be7, 0x00f960006012, 0x00f961007387,
   0x00f962007570, 0x00f963005317, 0x00f9640078fb, 0x00f965004fbf, 0x00f966005fa9, 0x00f967004e0d,
   0x00f968006ccc, 0x00f969006578, 0x00f96a007d22, 0x00f96b0053c3, 0x00f96c00585e, 0x00f96d007701,
   0x00f96e008449, 0x00f96f008aaa, 0x00f970006bba, 0x00f971008fb0, 0x00f972006c88, 0x00f9730062fe,
   0x00f9740082e5, 0x00f9750063a0, 0x00f976007565, 0x00f977004eae, 0x00f978005169, 0x00f9790051c9,
   0x00f97a006881, 0x00f97b007ce7, 0x00f97c00826f, 0x00f97d008ad2, 0x00f97e0091cf, 0x00f97f0052f5,
   0x00f980005442, 0x00f981005973, 0x00f982005eec, 0x00f9830065c5, 0x00f984006ffe, 0x00f98500792a,
   0x00f9860095ad, 0x00f987009a6a, 0x00f988009e97, 0x00f989009ece, 0x00f98a00529b, 0x00f98b0066c6,
   0x00f98c006b77, 0x00f98d008f62, 0x00f98e005e74, 0x00f98f006190, 0x00f990006200, 0x00f99100649a,
   0x00f992006f23, 0x00f993007149, 0x00f994007489, 0x00f9950079ca, 0x00f996007df4, 0x00f99700806f,
   0x00f998008f26, 0x00f9990084ee, 0x00f99a009023, 0x00f99b00934a, 0x00f99c005217, 0x00f99d0052a3,
   0x00f99e0054bd, 0x00f99f0070c8, 0x00f9a00088c2, 0x00f9a1008aaa, 0x00f9a2005ec9, 0x00f9a3005ff5,
   0x00f9a400637b, 0x00f9a5006bae, 0x00f9a6007c3e, 0x00f9a7007375, 0x00f9a8004ee4, 0x00f9a90056f9,
   0x00f9aa005be7, 0x00f9ab005dba, 0x00f9ac00601c, 0x00f9ad0073b2, 0x00f9ae007469, 0x00f9af007f9a,
   0x00f9b0008046, 0x00f9b1009234, 0x00f9b20096f6, 0x00f9b3009748, 0x00f9b4009818, 0x00f9b5004f8b,
   0x00f9b60079ae, 0x00f9b70091b4, 0x00f9b80096b8, 0x00f9b90060e1, 0x00f9ba004e86, 0x00f9bb0050da,
   0x00f9bc005bee, 0x00f9bd005c3f, 0x00f9be006599, 0x00f9bf006a02, 0x00f9c00071ce, 0x00f9c1007642,
   0x00f9c20084fc, 0x00f9c300907c, 0x00f9c4009f8d, 0x00f9c5006688, 0x00f9c600962e, 0x00f9c7005289,
   0x00f9c800677b, 0x00f9c90067f3, 0x00f9ca006d41, 0x00f9cb006e9c, 0x00f9cc007409, 0x00f9cd007559,
   0x00f9ce00786b, 0x00f9cf007d10, 0x00f9d000985e, 0x00f9d100516d, 0x00f9d200622e, 0x00f9d3009678,
   0x00f9d400502b, 0x00f9d5005d19, 0x00f9d6006dea, 0x00f9d7008f2a, 0x00f9d8005f8b, 0x00f9d9006144,
   0x00f9da006817, 0x00f9db007387, 0x00f9dc009686, 0x00f9dd005229, 0x00f9de00540f, 0x00f9df005c65,
   0x00f9e0006613, 0x00f9e100674e, 0x00f9e20068a8, 0x00f9e3006ce5, 0x00f9e4007406, 0x00f9e50075e2,
   0x00f9e6007f79, 0x00f9e70088cf, 0x00f9e80088e1, 0x00f9e90091cc, 0x00f9ea0096e2, 0x00f9eb00533f,
   0x00f9ec006eba, 0x00f9ed00541d, 0x00f9ee0071d0, 0x00f9ef007498, 0x00f9f00085fa, 0x00f9f10096a3,
   0x00f9f2009c57, 0x00f9f3009e9f, 0x00f9f4006797, 0x00f9f5006dcb, 0x00f9f60081e8, 0x00f9f7007acb,
   0x00f9f8007b20, 0x00f9f9007c92, 0x00f9fa0072c0, 0x00f9fb007099, 0x00f9fc008b58, 0x00f9fd004ec0,
   0x00f9fe008336, 0x00f9ff00523a, 0x00fa00005207, 0x00fa01005ea6, 0x00fa020062d3, 0x00fa03007cd6,
   0x00fa04005b85, 0x00fa05006d1e, 0x00fa060066b4, 0x00fa07008f3b, 0x00fa0800884c, 0x00fa0900964d,
   0x00fa0a00898b, 0x00fa0b005ed3, 0x00fa0c005140, 0x00fa0d0055c0, 0x00fa1000585a, 0x00fa12006674,
   0x00fa150051de, 0x00fa1600732a, 0x00fa170076ca, 0x00fa1800793c, 0x00fa1900795e, 0x00fa1a007965,
   0x00fa1b00798f, 0x00fa1c009756, 0x00fa1d007cbe, 0x00fa1e007fbd, 0x00fa20008612, 0x00fa22008af8,
   0x00fa25009038, 0x00fa260090fd, 0x00fa2a0098ef, 0x00fa2b0098fc, 0x00fa2c009928, 0x00fa2d009db4,
   0x00fa2e0090de, 0x00fa2f0096b7, 0x00fa30004fae, 0x00fa310050e7, 0x00fa3200514d, 0x00fa330052c9,
   0x00fa340052e4, 0x00fa35005351, 0x00fa3600559d, 0x00fa37005606, 0x00fa38005668, 0x00fa39005840,
   0x00fa3a0058a8, 0x00fa3b005c64, 0x00fa3c005c6e, 0x00fa3d006094, 0x00fa3e006168, 0x00fa3f00618e,
   0x00fa400061f2, 0x00fa4100654f, 0x00fa420065e2, 0x00fa43006691, 0x00fa44006885, 0x00fa45006d77,
   0x00fa46006e1a, 0x00fa47006f22, 0x00fa4800716e, 0x00fa4900722b, 0x00fa4a007422, 0x00fa4b007891,
   0x00fa4c00793e, 0x00fa4d007949, 0x00fa4e007948, 0x00fa4f007950, 0x00fa50007956, 0x00fa5100795d,
   0x00fa54007a40, 0x00fa55007a81, 0x00fa56007bc0, 0x00fa57007df4, 0x00fa58007e09, 0x00fa59007e41,
   0x00fa5a007f72, 0x00fa5b008005, 0x00fa5c0081ed, 0x00fa5d008279, 0x00fa5e008279, 0x00fa5f008457,
   0x00fa60008910, 0x00fa61008996, 0x00fa62008b01, 0x00fa63008b39, 0x00fa64008cd3, 0x00fa65008d08,
   0x00fa66008fb6, 0x00fa67009038, 0x00fa680096e3, 0x00fa690097ff, 0x00fa6a00983b, 0x00fa6b006075,
   0x00fa6c0242ee, 0x00fa6d008218, 0x00fa70004e26, 0x00fa710051b5, 0x00fa72005168, 0x00fa73004f80,
   0x00fa74005145, 0x00fa75005180, 0x00fa760052c7, 0x00fa770052fa, 0x00fa7800559d, 0x00fa79005555,
   0x00fa7a005599, 0x00fa7b0055e2, 0x00fa7c00585a, 0x00fa7d0058b3, 0x00fa7e005944, 0x00fa7f005954,
   0x00fa80005a62, 0x00fa81005b28, 0x00fa82005ed2, 0x00fa83005ed9, 0x00fa84005f69, 0x00fa85005fad,
   0x00fa860060d8, 0x00fa8700614e, 0x00fa88006108, 0x00fa8900618e, 0x00fa8a006160, 0x00fa8b0061f2,
   0x00fa8c006234, 0x00fa8d0063c4, 0x00fa8e00641c, 0x00fa8f006452, 0x00fa90006556, 0x00fa91006674,
   0x00fa92006717, 0x00fa9300671b, 0x00fa94006756, 0x00fa95006b79, 0x00fa96006bba, 0x00fa97006d41,
   0x00fa98006edb, 0x00fa99006ecb, 0x00fa9a006f22, 0x00fa9b00701e, 0x00fa9c00716e, 0x00fa9d0077a7,
   0x00fa9e007235, 0x00fa9f0072af, 0x00faa000732a, 0x00faa1007471, 0x00faa2007506, 0x00faa300753b,
   0x00faa400761d, 0x00faa500761f, 0x00faa60076ca, 0x00faa70076db, 0x00faa80076f4, 0x00faa900774a,
   0x00faaa007740, 0x00faab0078cc, 0x00faac007ab1, 0x00faad007bc0, 0x00faae007c7b, 0x00faaf007d5b,
   0x00fab0007df4, 0x00fab1007f3e, 0x00fab2008005, 0x00fab3008352, 0x00fab40083ef, 0x00fab5008779,
   0x00fab6008941, 0x00fab7008986, 0x00fab8008996, 0x00fab9008abf, 0x00faba008af8, 0x00fabb008acb,
   0x00fabc008b01, 0x00fabd008afe, 0x00fabe008aed, 0x00fabf008b39, 0x00fac0008b8a, 0x00fac1008d08,
   0x00fac2008f38, 0x00fac3009072, 0x00fac4009199, 0x00fac5009276, 0x00fac600967c, 0x00fac70096e3,
   0x00fac8009756, 0x00fac90097db, 0x00faca0097ff, 0x00facb00980b, 0x00facc00983b, 0x00facd009b12,
   0x00face009f9c, 0x00facf02284a, 0x00fad0022844, 0x00fad10233d5, 0x00fad2003b9d, 0x00fad3004018,
   0x00fad4004039, 0x00fad5025249, 0x00fad6025cd0, 0x00fad7027ed3, 0x00fad8009f43, 0x00fad9009f8e]

/-- The same from U+FB00 on; the code point, then its expansion, six hexadecimal digits each. -/
def highExpansions : List Nat :=
  [0x00fb00000066000066, 0x00fb01000066000069, 0x00fb0200006600006c, 0x00fb03000066000066000069,
   0x00fb0400006600006600006c, 0x00fb05000073000074, 0x00fb06000073000074, 0x00fb13000574000576,
   0x00fb14000574000565, 0x00fb1500057400056b, 0x00fb1600057e000576, 0x00fb1700057400056d,
   0x00fb1d0005d90005b4, 0x00fb1f0005f20005b7, 0x00fb200005e2, 0x00fb210005d0, 0x00fb270005e8,
   0x00fb280005ea, 0x00fb2a0005e90005c1, 0x00fb2b0005e90005c2, 0x00fb2c0005e90005bc0005c1,
   0x00fb2d0005e90005bc0005c2, 0x00fb2e0005d00005b7, 0x00fb2f0005d00005b8, 0x00fb300005d00005bc,
   0x00fb310005d10005bc, 0x00fb320005d20005bc, 0x00fb330005d30005bc, 0x00fb340005d40005bc,
   0x00fb350005d50005bc, 0x00fb360005d60005bc, 0x00fb380005d80005bc, 0x00fb390005d90005bc,
   0x00fb3a0005da0005bc, 0x00fb3b0005db0005bc, 0x00fb3c0005dc0005bc, 0x00fb3e0005de0005bc,
   0x00fb400005e00005bc, 0x00fb410005e10005bc, 0x00fb430005e30005bc, 0x00fb440005e40005bc,
   0x00fb460005e60005bc, 0x00fb470005e70005bc, 0x00fb480005e80005bc, 0x00fb490005e90005bc,
   0x00fb4a0005ea0005bc, 0x00fb4b0005d50005b9, 0x00fb4c0005d10005bf, 0x00fb4d0005db0005bf,
   0x00fb4e0005e40005bf, 0x00fb4f0005d00005dc, 0x00fb50000671, 0x00fb51000671, 0x00fb5200067b,
   0x00fb5300067b, 0x00fb5400067b, 0x00fb5500067b, 0x00fb5600067e, 0x00fb5700067e, 0x00fb5800067e,
   0x00fb5900067e, 0x00fb5a000680, 0x00fb5b000680, 0x00fb5c000680, 0x00fb5d000680, 0x00fb5e00067a,
   0x00fb5f00067a, 0x00fb6000067a, 0x00fb6100067a, 0x00fb6200067f, 0x00fb6300067f, 0x00fb6400067f,
   0x00fb6500067f, 0x00fb66000679, 0x00fb67000679, 0x00fb68000679, 0x00fb69000679, 0x00fb6a0006a4,
   0x00fb6b0006a4, 0x00fb6c0006a4, 0x00fb6d0006a4, 0x00fb6e0006a6, 0x00fb6f0006a6, 0x00fb700006a6,
   0x00fb710006a6, 0x00fb72000684, 0x00fb73000684, 0x00fb74000684, 0x00fb75000684, 0x00fb76000683,
   0x00fb77000683, 0x00fb78000683, 0x00fb79000683, 0x00fb7a000686, 0x00fb7b000686, 0x00fb7c000686,
   0x00fb7f000687, 0x00fb80000687, 0x00fb81000687, 0x00fb8200068d, 0x00fb8300068d, 0x00fb8400068c,
   0x00fb8500068c, 0x00fb8600068e, 0x00fb8700068e, 0x00fb88000688, 0x00fb89000688, 0x00fb8a000698,
   0x00fb8b000698, 0x00fb8c000691, 0x00fb8d000691, 0x00fb8e0006a9, 0x00fb8f0006a9, 0x00fb900006a9,
   0x00fb910006a9, 0x00fb920006af, 0x00fb930006af, 0x00fb940006af, 0x00fb950006af, 0x00fb960006b3,
   0x00fb970006b3, 0x00fb980006b3, 0x00fb990006b3, 0x00fb9a0006b1, 0x00fb9b0006b1, 0x00fb9c0006b1,
   0x00fb9d0006b1, 0x00fb9e0006ba, 0x00fba10006bb, 0x00fba20006bb, 0x00fba30006bb,
   0x00fba40006d5000654, 0x00fba50006d5000654, 0x00fba60006c1, 0x00fba70006c1, 0x00fba80006c1,
   0x00fba90006c1, 0x00fbaa0006be, 0x00fbab0006be, 0x00fbac0006be, 0x00fbad0006be, 0x00fbae0006d2,
   0x00fbaf0006d2, 0x00fbb00006d2000654, 0x00fbb10006d2000654, 0x00fbd30006ad, 0x00fbd40006ad,
   0x00fbd50006ad, 0x00fbd60006ad, 0x00fbd70006c7, 0x00fbd80006c7, 0x00fbd90006c6, 0x00fbda0006c6,
   0x00fbdb0006c8, 0x00fbdc0006c8, 0x00fbdd0006c7000674, 0x00fbde0006cb, 0x00fbdf0006cb,
   0x00fbe00006c5, 0x00fbe10006c5, 0x00fbe20006c9, 0x00fbe30006c9, 0x00fbe40006d0, 0x00fbe50006d0,
   0x00fbe60006d0, 0x00fbe70006d0, 0x00fbe8000649, 0x00fbe9000649, 0x00fbea00064a000654000627,
   0x00fbeb00064a000654000627, 0x00fbec00064a0006540006d5, 0x00fbed00064a0006540006d5,
   0x00fbee00064a000654000648, 0x00fbef00064a000654000648, 0x00fbf000064a0006540006c7,
   0x00fbf100064a0006540006c7, 0x00fbf200064a0006540006c6, 0x00fbf300064a0006540006c6,
   0x00fbf400064a0006540006c8, 0x00fbf500064a0006540006c8, 0x00fbf600064a0006540006d0,
   0x00fbf700064a0006540006d0, 0x00fbf800064a0006540006d0, 0x00fbf900064a000654000649,
   0x00fbfa00064a000654000649, 0x00fbfb00064a000654000649, 0x00fbfc0006cc, 0x00fbfd0006cc,
   0x00fbfe0006cc, 0x00fbff0006cc, 0x00fc0000064a00065400062c, 0x00fc0100064a00065400062d,
   0x00fc0200064a000654000645, 0x00fc0300064a000654000649, 0x00fc0400064a00065400064a,
   0x00fc0500062800062c, 0x00fc0600062800062d, 0x00fc0700062800062e, 0x00fc08000628000645,
   0x00fc09000628000649, 0x00fc0a00062800064a, 0x00fc0b00062a00062c, 0x00fc0c00062a00062d,
   0x00fc0d00062a00062e, 0x00fc0e00062a000645, 0x00fc0f00062a000649, 0x00fc1000062a00064a,
   0x00fc1100062b00062c, 0x00fc1200062b000645, 0x00fc1300062b000649, 0x00fc1400062b00064a,
   0x00fc1500062c00062d, 0x00fc1600062c000645, 0x00fc1700062d00062c, 0x00fc1800062d000645,
   0x00fc1900062e00062c, 0x00fc1a00062e00062d, 0x00fc1b00062e000645, 0x00fc1c00063300062c,
   0x00fc1d00063300062d, 0x00fc1e00063300062e, 0x00fc1f000633000645, 0x00fc2000063500062d,
   0x00fc21000635000645, 0x00fc2200063600062c, 0x00fc2300063600062d, 0x00fc2400063600062e,
   0x00fc25000636000645, 0x00fc2600063700062d, 0x00fc27000637000645, 0x00fc28000638000645,
   0x00fc2900063900062c, 0x00fc2a000639000645, 0x00fc2b00063a00062c, 0x00fc2c00063a000645,
   0x00fc2d00064100062c, 0x00fc2e00064100062d, 0x00fc2f00064100062e, 0x00fc30000641000645,
   0x00fc31000641000649, 0x00fc3200064100064a, 0x00fc3300064200062d, 0x00fc34000642000645,
   0x00fc35000642000649, 0x00fc3600064200064a, 0x00fc37000643000627, 0x00fc3800064300062c,
   0x00fc3900064300062d, 0x00fc3a00064300062e, 0x00fc3b000643000644, 0x00fc3c000643000645,
   0x00fc3d000643000649, 0x00fc3e00064300064a, 0x00fc3f00064400062c, 0x00fc4000064400062d,
   0x00fc4100064400062e, 0x00fc42000644000645, 0x00fc43000644000649, 0x00fc4400064400064a,
   0x00fc4500064500062c, 0x00fc4600064500062d, 0x00fc4700064500062e, 0x00fc48000645000645,
   0x00fc49000645000649, 0x00fc4a00064500064a, 0x00fc4b00064600062c, 0x00fc4c00064600062d,
   0x00fc4d00064600062e, 0x00fc4e000646000645, 0x00fc4f000646000649, 0x00fc5000064600064a,
   0x00fc5100064700062c, 0x00fc52000647000645, 0x00fc53000647000649, 0x00fc5400064700064a,
   0x00fc5500064a00062c, 0x00fc5600064a00062d, 0x00fc5700064a00062e, 0x00fc5800064a000645,
   0x00fc5900064a000649, 0x00fc5a00064a00064a, 0x00fc5b000630000670, 0x00fc5c000631000670,
   0x00fc5d000649000670, 0x00fc6400064a000654000631, 0x00fc6500064a000654000632,
   0x00fc6600064a000654000645, 0x00fc6700064a000654000646, 0x00fc6800064a000654000649,
   0x00fc6900064a00065400064a, 0x00fc6a000628000631, 0x00fc6b000628000632, 0x00fc6c000628000645,
   0x00fc6d000628000646, 0x00fc6e000628000649, 0x00fc6f00062800064a, 0x00fc7000062a000631,
   0x00fc7100062a000632, 0x00fc7200062a000645, 0x00fc7300062a000646, 0x00fc7400062a000649,
   0x00fc7500062a00064a, 0x00fc7600062b000631, 0x00fc7700062b000632, 0x00fc7800062b000645,
   0x00fc7900062b000646, 0x00fc7a00062b000649, 0x00fc7b00062b00064a, 0x00fc7c000641000649,
   0x00fc7d00064100064a, 0x00fc7e000642000649, 0x00fc7f00064200064a, 0x00fc80000643000627,
   0x00fc81000643000644, 0x00fc82000643000645, 0x00fc83000643000649, 0x00fc8400064300064a,
   0x00fc85000644000645, 0x00fc86000644000649, 0x00fc8700064400064a, 0x00fc88000645000627,
   0x00fc89000645000645, 0x00fc8a000646000631, 0x00fc8b000646000632, 0x00fc8c000646000645,
   0x00fc8d000646000646, 0x00fc8e000646000649, 0x00fc8f00064600064a, 0x00fc90000649000670,
   0x00fc9100064a000631, 0x00fc9200064a000632, 0x00fc9300064a000645, 0x00fc9400064a000646,
   0x00fc9500064a000649, 0x00fc9600064a00064a, 0x00fc9700064a00065400062c,
   0x00fc9800064a00065400062d, 0x00fc9900064a00065400062e, 0x00fc9a00064a000654000645,
   0x00fc9b00064a000654000647, 0x00fc9c00062800062c, 0x00fc9d00062800062d, 0x00fc9e00062800062e,
   0x00fc9f000628000645, 0x00fca0000628000647, 0x00fca100062a00062c, 0x00fca200062a00062d,
   0x00fca300062a00062e, 0x00fca400062a000645, 0x00fca500062a000647, 0x00fca600062b000645,
   0x00fca700062c00062d, 0x00fca800062c000645, 0x00fca900062d00062c, 0x00fcaa00062d000645,
   0x00fcab00062e00062c, 0x00fcac00062e000645, 0x00fcad00063300062c, 0x00fcae00063300062d,
   0x00fcaf00063300062e, 0x00fcb0000633000645, 0x00fcb100063500062d, 0x00fcb200063500062e,
   0x00fcb3000635000645, 0x00fcb400063600062c, 0x00fcb500063600062d, 0x00fcb600063600062e,
   0x00fcb7000636000645, 0x00fcb800063700062d, 0x00fcb9000638000645, 0x00fcba00063900062c,
   0x00fcbb000639000645, 0x00fcbc00063a00062c, 0x00fcbd00063a000645, 0x00fcbe00064100062c,
   0x00fcbf00064100062d, 0x00fcc000064100062e, 0x00fcc1000641000645, 0x00fcc200064200062d,
   0x00fcc3000642000645, 0x00fcc400064300062c, 0x00fcc500064300062d, 0x00fcc600064300062e,
   0x00fcc7000643000644, 0x00fcc8000643000645, 0x00fcc900064400062c, 0x00fcca00064400062d,
   0x00fccb00064400062e, 0x00fccc000644000645, 0x00fccd000644000647, 0x00fcce00064500062c,
   0x00fccf00064500062d, 0x00fcd000064500062e, 0x00fcd1000645000645, 0x00fcd200064600062c,
   0x00fcd300064600062d, 0x00fcd400064600062e, 0x00fcd5000646000645, 0x00fcd6000646000647,
   0x00fcd700064700062c, 0x00fcd8000647000645, 0x00fcd9000647000670, 0x00fcda00064a00062c,
   0x00fcdb00064a00062d, 0x00fcdc00064a00062e, 0x00fcdd00064a000645, 0x00fcde00064a000647,
   0x00fcdf00064a000654000645, 0x00fce000064a000654000647, 0x00fce1000628000645,
   0x00fce2000628000647, 0x00fce300062a000645, 0x00fce400062a000647, 0x00fce500062b000645,
   0x00fce600062b000647, 0x00fce7000633000645, 0x00fce8000633000647, 0x00fce9000634000645,
   0x00fcea000634000647, 0x00fceb000643000644, 0x00fcec000643000645, 0x00fced000644000645,
   0x00fcee000646000645, 0x00fcef000646000647, 0x00fcf000064a000645, 0x00fcf100064a000647,
   0x00fcf200064000064e000651, 0x00fcf300064000064f000651, 0x00fcf4000640000650000651,
   0x00fcf5000637000649, 0x00fcf600063700064a, 0x00fcf7000639000649, 0x00fcf800063900064a,
   0x00fcf900063a000649, 0x00fcfa00063a00064a, 0x00fcfb000633000649, 0x00fcfc00063300064a,
   0x00fcfd000634000649, 0x00fcfe00063400064a, 0x00fcff00062d000649, 0x00fd0000062d00064a,
   0x00fd0100062c000649, 0x00fd0200062c00064a, 0x00fd0300062e000649, 0x00fd0400062e00064a,
   0x00fd05000635000649, 0x00fd0600063500064a, 0x00fd07000636000649, 0x00fd0800063600064a,
   0x00fd0900063400062c, 0x00fd0a00063400062d, 0x00fd0b00063400062e, 0x00fd0c000634000645,
   0x00fd0d000634000631, 0x00fd0e000633000631, 0x00fd0f000635000631, 0x00fd10000636000631,
   0x00fd11000637000649, 0x00fd1200063700064a, 0x00fd13000639000649, 0x00fd1400063900064a,
   0x00fd1500063a000649, 0x00fd1600063a00064a, 0x00fd17000633000649, 0x00fd1800063300064a,
   0x00fd19000634000649, 0x00fd1a00063400064a, 0x00fd1b00062d000649, 0x00fd1c00062d00064a,
   0x00fd1d00062c000649, 0x00fd1e00062c00064a, 0x00fd1f00062e000649, 0x00fd2000062e00064a,
   0x00fd21000635000649, 0x00fd2200063500064a, 0x00fd23000636000649, 0x00fd2400063600064a,
   0x00fd2500063400062c, 0x00fd2600063400062d, 0x00fd2700063400062e, 0x00fd28000634000645,
   0x00fd29000634000631, 0x00fd2a000633000631, 0x00fd2b000635000631, 0x00fd2c000636000631,
   0x00fd2d00063400062c, 0x00fd2e00063400062d, 0x00fd2f00063400062e, 0x00fd30000634000645,
   0x00fd31000633000647, 0x00fd32000634000647, 0x00fd33000637000645, 0x00fd3400063300062c,
   0x00fd3500063300062d, 0x00fd3600063300062e, 0x00fd3700063400062c, 0x00fd3800063400062d,
   0x00fd3900063400062e, 0x00fd3a000637000645, 0x00fd3b000638000645, 0x00fd3c00062700064b,
   0x00fd3d00062700064b, 0x00fd5000062a00062c000645, 0x00fd5100062a00062d00062c,
   0x00fd5200062a00062d00062c, 0x00fd5300062a00062d000645, 0x00fd5400062a00062e000645,
   0x00fd5500062a00064500062c, 0x00fd5600062a00064500062d, 0x00fd5700062a00064500062e,
   0x00fd5800062c00064500062d, 0x00fd5900062c00064500062d, 0x00fd5a00062d00064500064a,
   0x00fd5b00062d000645000649, 0x00fd5c00063300062d00062c, 0x00fd5d00063300062c00062d,
   0x00fd5e00063300062c000649, 0x00fd5f00063300064500062d, 0x00fd6000063300064500062d,
   0x00fd6100063300064500062c, 0x00fd62000633000645000645, 0x00fd63000633000645000645,
   0x00fd6400063500062d00062d, 0x00fd6500063500062d00062d, 0x00fd66000635000645000645,
   0x00fd6700063400062d000645, 0x00fd6800063400062d000645, 0x00fd6900063400062c00064a,
   0x00fd6a00063400064500062e, 0x00fd6b00063400064500062e, 0x00fd6c000634000645000645,
   0x00fd6d000634000645000645, 0x00fd6e00063600062d000649, 0x00fd6f00063600062e000645,
   0x00fd7000063600062e000645, 0x00fd7100063700064500062d, 0x00fd7200063700064500062d,
   0x00fd73000637000645000645, 0x00fd7400063700064500064a, 0x00fd7500063900062c000645,
   0x00fd76000639000645000645, 0x00fd77000639000645000645, 0x00fd78000639000645000649,
   0x00fd7900063a000645000645, 0x00fd7a00063a00064500064a, 0x00fd7b00063a000645000649,
   0x00fd7c00064100062e000645, 0x00fd7d00064100062e000645, 0x00fd7e00064200064500062d,
   0x00fd7f000642000645000645, 0x00fd8000064400062d000645, 0x00fd8100064400062d00064a,
   0x00fd8200064400062d000649, 0x00fd8300064400062c00062c, 0x00fd8400064400062c00062c,
   0x00fd8500064400062e000645, 0x00fd8600064400062e000645, 0x00fd8700064400064500062d,
   0x00fd8800064400064500062d, 0x00fd8900064500062d00062c, 0x00fd8a00064500062d000645,
   0x00fd8b00064500062d00064a, 0x00fd8c00064500062c00062d, 0x00fd8d00064500062c000645,
   0x00fd8e00064500062e00062c, 0x00fd8f00064500062e000645, 0x00fd9200064500062c00062e,
   0x00fd9300064700064500062c, 0x00fd94000647000645000645, 0x00fd9500064600062d000645,
   0x00fd9600064600062d000649, 0x00fd9700064600062c000645, 0x00fd9800064600062c000645,
   0x00fd9900064600062c000649, 0x00fd9a00064600064500064a, 0x00fd9b000646000645000649,
   0x00fd9c00064a000645000645, 0x00fd9d00064a000645000645, 0x00fd9e00062800062e00064a,
   0x00fd9f00062a00062c00064a, 0x00fda000062a00062c000649, 0x00fda100062a00062e00064a,
   0x00fda200062a00062e000649, 0x00fda300062a00064500064a, 0x00fda400062a000645000649,
   0x00fda500062c00064500064a, 0x00fda600062c00062d000649, 0x00fda700062c000645000649,
   0x00fda800063300062e000649, 0x00fda900063500062d00064a, 0x00fdaa00063400062d00064a,
   0x00fdab00063600062d00064a, 0x00fdac00064400062c00064a, 0x00fdad00064400064500064a,
   0x00fdae00064a00062d00064a, 0x00fdaf00064a00062c00064a, 0x00fdb000064a00064500064a,
   0x00fdb100064500064500064a, 0x00fdb200064200064500064a, 0x00fdb300064600062d00064a,
   0x00fdb400064200064500062d, 0x00fdb500064400062d000645, 0x00fdb600063900064500064a,
   0x00fdb700064300064500064a, 0x00fdb800064600062c00062d, 0x00fdb900064500062e00064a,
   0x00fdba00064400062c000645, 0x00fdbb000643000645000645, 0x00fdbc00064400062c000645,
   0x00fdbd00064600062c00062d, 0x00fdbe00062c00062d00064a, 0x00fdbf00062d00062c00064a,
   0x00fdc000064500062c00064a, 0x00fdc100064100064500064a, 0x00fdc200062800062d00064a,
   0x00fdc3000643000645000645, 0x00fdc400063900062c000645, 0x00fdc5000635000645000645,
   0x00fdc600063300062e00064a, 0x00fdc700064600062c00064a, 0x00fdf00006350006440006d2,
   0x00fdf10006420006440006d2, 0x00fdf2000627000644000644000647, 0x00fdf3000627000643000628000631,
   0x00fdf400064500062d00064500062f, 0x00fdf5000635000644000639000645,
   0x00fdf6000631000633000648000644, 0x00fdf700063900064400064a000647,
   0x00fdf8000648000633000644000645, 0x00fdf9000635000644000649, 0x00fe3300005f, 0x00fe3400005f,
   0x00fe4d00005f, 0x00fe4e00005f, 0x00fe4f00005f, 0x00fe7100064000064b, 0x00fe7700064000064e,
   0x00fe7900064000064f, 0x00fe7b000640000650, 0x00fe7d000640000651, 0x00fe7f000640000652,
   0x00fe80000621, 0x00fe81000627000653, 0x00fe82000627000653, 0x00fe83000627000654,
   0x00fe84000627000654, 0x00fe85000648000654, 0x00fe86000648000654, 0x00fe87000627000655,
   0x00fe88000627000655, 0x00fe8900064a000654, 0x00fe8a00064a000654, 0x00fe8b00064a000654,
   0x00fe8c00064a000654, 0x00fe8d000627, 0x00fe90000628, 0x00fe91000628, 0x00fe9600062a,
   0x00fe9700062a, 0x00fe9a00062b, 0x00fe9b00062b, 0x00fe9e00062c, 0x00fe9f00062c, 0x00fea200062d,
   0x00fea300062d, 0x00fea600062e, 0x00fea700062e, 0x00feb2000633, 0x00feb3000633, 0x00feb6000634,
   0x00feb7000634, 0x00feba000635, 0x00febb000635, 0x00febe000636, 0x00febf000636, 0x00fec2000637,
   0x00fec3000637, 0x00fec6000638, 0x00fec7000638, 0x00feca000639, 0x00fecb000639, 0x00fece00063a,
   0x00fecf00063a, 0x00fed000063a, 0x00fed1000641, 0x00fed2000641, 0x00fed3000641, 0x00fed6000642,
   0x00fed7000642, 0x00feda000643, 0x00fedb000643, 0x00fede000644, 0x00fedf000644, 0x00fee2000645,
   0x00fee3000645, 0x00fee6000646, 0x00fee7000646, 0x00feea000647, 0x00feeb000647, 0x00fef200064a,
   0x00fef300064a, 0x00fef400064a, 0x00fef5000644000627000653, 0x00fef6000644000627000653,
   0x00fef7000644000627000654, 0x00fef8000644000627000654, 0x00fef9000644000627000655,
   0x00fefa000644000627000655, 0x00fefb000644000627, 0x00fefc000644000627, 0x00ff3f00005f,
   0x00ff660030f2, 0x00ff670030a1, 0x00ff680030a3, 0x00ff690030a5, 0x00ff6a0030a7, 0x00ff6b0030a9,
   0x00ff6c0030e3, 0x00ff6d0030e5, 0x00ff6e0030e7, 0x00ff6f0030c3, 0x00ff700030fc, 0x00ff710030a2,
   0x00ff720030a4, 0x00ff730030a6, 0x00ff740030a8, 0x00ff770030ad, 0x00ff780030af, 0x00ff790030b1,
   0x00ff7a0030b3, 0x00ff7b0030b5, 0x00ff7c0030b7, 0x00ff7d0030b9, 0x00ff7e0030bb, 0x00ff7f0030bd,
   0x00ff800030bf, 0x00ff810030c1, 0x00ff820030c4, 0x00ff830030c6, 0x00ff840030c8, 0x00ff8b0030d2,
   0x00ff8c0030d5, 0x00ff8d0030d8, 0x00ff8e0030db, 0x00ff940030e4, 0x00ff950030e6, 0x00ff9c0030ef,
   0x00ff9d0030f3, 0x00ffa0001160, 0x00ffa30011aa, 0x00ffa4001102, 0x00ffb000111a, 0x00ffb4001121,
   0x0107830000e6, 0x010784000299, 0x010785000253, 0x0107870002a3, 0x01078800ab66, 0x0107890002a5,
   0x01078a0002a4, 0x01078d001d91, 0x01078e000258, 0x01078f00025e, 0x0107900002a9, 0x010791000264,
   0x010792000262, 0x010793000260, 0x01079400029b, 0x010795000127, 0x01079600029c, 0x010797000267,
   0x010798000284, 0x01079b00026c, 0x01079c01df04, 0x01079d00a78e, 0x01079e00026e, 0x01079f01df05,
   0x0107a000028e, 0x0107a101df06, 0x0107a20000f8, 0x0107a5000071, 0x0107a600027a, 0x0107a701df08,
   0x0107aa000280, 0x0107ab0002a8, 0x0107ac0002a6, 0x0107ad00ab67, 0x0107ae0002a7, 0x0107af000288,
   0x0107b0002c71, 0x0107b200028f, 0x0107b5000298, 0x0107b901df0a, 0x0107ba01df1e,
   0x01109a0110990110ba, 0x01109c01109b0110ba, 0x0110ab0110a50110ba, 0x01112e011131011127,
   0x01112f011132011127, 0x01134b01134701133e, 0x01134c011347011357, 0x0114bb0114b90114ba,
   0x0114bc0114b90114b0, 0x0114be0114b90114bd, 0x0115ba0115b80115af, 0x0115bb0115b90115af,
   0x011938011935011930, 0x01d49c000041, 0x01d4a2000047, 0x01d4bb000066, 0x01d54600004f,
   0x01d6a4000131, 0x01d6a5000237, 0x01d6b9000398, 0x01d6dc0003b5, 0x01d6dd0003b8, 0x01d6de0003ba,
   0x01d6df0003c6, 0x01d6e00003c1, 0x01d6e10003c0, 0x01d6f3000398, 0x01d7160003b5, 0x01d7170003b8,
   0x01d7180003ba, 0x01d7190003c6, 0x01d71a0003c1, 0x01d71b0003c0, 0x01d72d000398, 0x01d7500003b5,
   0x01d7510003b8, 0x01d7520003ba, 0x01d7530003c6, 0x01d7540003c1, 0x01d7550003c0, 0x01d767000398,
   0x01d78a0003b5, 0x01d78b0003b8, 0x01d78c0003ba, 0x01d78d0003c6, 0x01d78e0003c1, 0x01d78f0003c0,
   0x01d7a1000398, 0x01d7c40003b5, 0x01d7c50003b8, 0x01d7c60003ba, 0x01d7c70003c6, 0x01d7c80003c1,
   0x01d7c90003c0, 0x01ee0200062c, 0x01ee0300062f, 0x01ee05000648, 0x01ee06000632, 0x01ee0700062d,
   0x01ee08000637, 0x01ee0900064a, 0x01ee0e000633, 0x01ee0f000639, 0x01ee10000641, 0x01ee11000635,
   0x01ee12000642, 0x01ee13000631, 0x01ee14000634, 0x01ee1700062e, 0x01ee18000630, 0x01ee19000636,
   0x01ee1a000638, 0x01ee1b00063a, 0x01ee1c00066e, 0x01ee1d0006ba, 0x01ee1e0006a1, 0x01ee1f00066f,
   0x01ee21000628, 0x01ee2200062c, 0x01ee24000647, 0x01ee2700062d, 0x01ee2900064a, 0x01ee2e000633,
   0x01ee2f000639, 0x01ee30000641, 0x01ee31000635, 0x01ee32000642, 0x01ee34000634, 0x01ee3700062e,
   0x01ee39000636, 0x01ee3b00063a, 0x01ee4200062c, 0x01ee4700062d, 0x01ee4900064a, 0x01ee4b000644,
   0x01ee4d000646, 0x01ee4e000633, 0x01ee4f000639, 0x01ee51000635, 0x01ee52000642, 0x01ee54000634,
   0x01ee5700062e, 0x01ee59000636, 0x01ee5b00063a, 0x01ee5d0006ba, 0x01ee5f00066f, 0x01ee61000628,
   0x01ee6200062c, 0x01ee64000647, 0x01ee6700062d, 0x01ee68000637, 0x01ee6900064a, 0x01ee6a000643,
   0x01ee6e000633, 0x01ee6f000639, 0x01ee70000641, 0x01ee71000635, 0x01ee72000642, 0x01ee74000634,
   0x01ee7700062e, 0x01ee79000636, 0x01ee7a000638, 0x01ee7b00063a, 0x01ee7c00066e, 0x01ee7e0006a1,
   0x01ee8200062c, 0x01ee8300062f, 0x01ee86000632, 0x01ee8700062d, 0x01ee88000637, 0x01ee8900064a,
   0x01ee8e000633, 0x01ee8f000639, 0x01ee90000641, 0x01ee91000635, 0x01ee92000642, 0x01ee93000631,
   0x01ee94000634, 0x01ee9700062e, 0x01ee98000630, 0x01ee99000636, 0x01ee9a000638, 0x01ee9b00063a,
   0x01eea1000628, 0x01eea200062c, 0x01eea300062f, 0x01eea5000648, 0x01eea6000632, 0x01eea700062d,
   0x01eea8000637, 0x01eea900064a, 0x01eeae000633, 0x01eeaf000639, 0x01eeb0000641, 0x01eeb1000635,
   0x01eeb2000642, 0x01eeb3000631, 0x01eeb4000634, 0x01eeb700062e, 0x01eeb8000630, 0x01eeb9000636,
   0x01eeba000638, 0x01eebb00063a]

/-- The same from U+2F800 on; the code point, then its expansion, six hexadecimal digits each. -/
def ideographExpansions : List Nat :=
  [0x02f800004e3d, 0x02f801004e38, 0x02f802004e41, 0x02f803020122, 0x02f804004f60, 0x02f805004fae,
   0x02f806004fbb, 0x02f807005002, 0x02f80800507a, 0x02f809005099, 0x02f80a0050e7, 0x02f80b0050cf,
   0x02f80c00349e, 0x02f80d02063a, 0x02f80e00514d, 0x02f80f005154, 0x02f810005164, 0x02f811005177,
   0x02f81202051c, 0x02f8130034b9, 0x02f814005167, 0x02f81500518d, 0x02f81602054b, 0x02f817005197,
   0x02f8180051a4, 0x02f819004ecc, 0x02f81a0051ac, 0x02f81b0051b5, 0x02f81c0291df, 0x02f81d0051f5,
   0x02f81e005203, 0x02f81f0034df, 0x02f82000523b, 0x02f821005246, 0x02f822005272, 0x02f823005277,
   0x02f824003515, 0x02f8250052c7, 0x02f8260052c9, 0x02f8270052e4, 0x02f8280052fa, 0x02f82b005317,
   0x02f82c005349, 0x02f82d005351, 0x02f82e00535a, 0x02f82f005373, 0x02f83000537d, 0x02f83100537f,
   0x02f83200537f, 0x02f83300537f, 0x02f834020a2c, 0x02f835007070, 0x02f8360053ca, 0x02f8370053df,
   0x02f838020b63, 0x02f8390053eb, 0x02f83a0053f1, 0x02f83b005406, 0x02f83c00549e, 0x02f83d005438,
   0x02f83e005448, 0x02f83f005468, 0x02f8400054a2, 0x02f8410054f6, 0x02f842005510, 0x02f843005553,
   0x02f844005563, 0x02f845005584, 0x02f846005584, 0x02f847005599, 0x02f8480055ab, 0x02f8490055b3,
   0x02f84a0055c2, 0x02f84b005716, 0x02f84c005606, 0x02f84d005717, 0x02f84e005651, 0x02f84f005674,
   0x02f850005207, 0x02f8510058ee, 0x02f8520057ce, 0x02f8530057f4, 0x02f85400580d, 0x02f85500578b,
   0x02f856005832, 0x02f857005831, 0x02f8580058ac, 0x02f8590214e4, 0x02f85a0058f2, 0x02f85b0058f7,
   0x02f85c005906, 0x02f85d00591a, 0x02f85e005922, 0x02f85f005962, 0x02f8600216a8, 0x02f8610216ea,
   0x02f8620059ec, 0x02f863005a1b, 0x02f864005a27, 0x02f8650059d8, 0x02f866005a66, 0x02f8670036ee,
   0x02f8680036fc, 0x02f869005b08, 0x02f86a005b3e, 0x02f86b005b3e, 0x02f86c0219c8, 0x02f86d005bc3,
   0x02f86e005bd8, 0x02f86f005be7, 0x02f870005bf3, 0x02f871021b18, 0x02f872005bff, 0x02f873005c06,
   0x02f874005f53, 0x02f875005c22, 0x02f876003781, 0x02f877005c60, 0x02f878005c6e, 0x02f879005cc0,
   0x02f87a005c8d, 0x02f87b021de4, 0x02f87c005d43, 0x02f87d021de6, 0x02f87e005d6e, 0x02f87f005d6b,
   0x02f880005d7c, 0x02f88300382f, 0x02f884005dfd, 0x02f885005e28, 0x02f886005e3d, 0x02f887005e69,
   0x02f888003862, 0x02f889022183, 0x02f88a00387c, 0x02f88b005eb0, 0x02f88c005eb3, 0x02f88d005eb6,
   0x02f88e005eca, 0x02f88f02a392, 0x02f890005efe, 0x02f891022331, 0x02f892022331, 0x02f893008201,
   0x02f894005f22, 0x02f895005f22, 0x02f8960038c7, 0x02f8970232b8, 0x02f8980261da, 0x02f899005f62,
   0x02f89a005f6b, 0x02f89b0038e3, 0x02f89c005f9a, 0x02f89d005fcd, 0x02f89e005fd7, 0x02f89f005ff9,
   0x02f8a0006081, 0x02f8a100393a, 0x02f8a200391c, 0x02f8a3006094, 0x02f8a40226d4, 0x02f8a50060c7,
   0x02f8a6006148, 0x02f8a700614c, 0x02f8a800614e, 0x02f8a900614c, 0x02f8aa00617a, 0x02f8ab00618e,
   0x02f8ac0061b2, 0x02f8ad0061a4, 0x02f8ae0061af, 0x02f8af0061de, 0x02f8b00061f2, 0x02f8b10061f6,
   0x02f8b2006210, 0x02f8b300621b, 0x02f8b400625d, 0x02f8b50062b1, 0x02f8b60062d4, 0x02f8b7006350,
   0x02f8b8022b0c, 0x02f8b900633d, 0x02f8ba0062fc, 0x02f8bb006368, 0x02f8bc006383, 0x02f8bd0063e4,
   0x02f8be022bf1, 0x02f8bf006422, 0x02f8c00063c5, 0x02f8c10063a9, 0x02f8c2003a2e, 0x02f8c3006469,
   0x02f8c400647e, 0x02f8c500649d, 0x02f8c6006477, 0x02f8c7003a6c, 0x02f8c800654f, 0x02f8c900656c,
   0x02f8ca02300a, 0x02f8cb0065e3, 0x02f8cc0066f8, 0x02f8cd006649, 0x02f8ce003b19, 0x02f8cf006691,
   0x02f8d0003b08, 0x02f8d1003ae4, 0x02f8d2005192, 0x02f8d3005195, 0x02f8d4006700, 0x02f8d500669c,
   0x02f8d60080ad, 0x02f8d70043d9, 0x02f8d8006717, 0x02f8d900671b, 0x02f8da006721, 0x02f8db00675e,
   0x02f8dc006753, 0x02f8dd0233c3, 0x02f8de003b49, 0x02f8df0067fa, 0x02f8e0006785, 0x02f8e1006852,
   0x02f8e2006885, 0x02f8e302346d, 0x02f8e400688e, 0x02f8e500681f, 0x02f8e6006914, 0x02f8e7003b9d,
   0x02f8e8006942, 0x02f8e90069a3, 0x02f8ea0069ea, 0x02f8eb006aa8, 0x02f8ec0236a3, 0x02f8ed006adb,
   0x02f8ee003c18, 0x02f8ef006b21, 0x02f8f00238a7, 0x02f8f1006b54, 0x02f8f2003c4e, 0x02f8f3006b72,
   0x02f8f4006b9f, 0x02f8f7023a8d, 0x02f8f8021d0b, 0x02f8f9023afa, 0x02f8fa006c4e, 0x02f8fb023cbc,
   0x02f8fc006cbf, 0x02f8fd006ccd, 0x02f8fe006c67, 0x02f8ff006d16, 0x02f900006d3e, 0x02f901006d77,
   0x02f902006d41, 0x02f903006d69, 0x02f904006d78, 0x02f905006d85, 0x02f906023d1e, 0x02f907006d34,
   0x02f908006e2f, 0x02f909006e6e, 0x02f90a003d33, 0x02f90b006ecb, 0x02f90c006ec7, 0x02f90d023ed1,
   0x02f90e006df9, 0x02f90f006f6e, 0x02f910023f5e, 0x02f911023f8e, 0x02f912006fc6, 0x02f913007039,
   0x02f91400701e, 0x02f91500701b, 0x02f916003d96, 0x02f91700704a, 0x02f91800707d, 0x02f919007077,
   0x02f91a0070ad, 0x02f91b020525, 0x02f91c007145, 0x02f91d024263, 0x02f91e00719c, 0x02f91f0243ab,
   0x02f920007228, 0x02f921007235, 0x02f922007250, 0x02f923024608, 0x02f924007280, 0x02f925007295,
   0x02f926024735, 0x02f927024814, 0x02f92800737a, 0x02f92900738b, 0x02f92a003eac, 0x02f92b0073a5,
   0x02f92c003eb8, 0x02f92d003eb8, 0x02f92e007447, 0x02f92f00745c, 0x02f930007471, 0x02f931007485,
   0x02f9320074ca, 0x02f933003f1b, 0x02f934007524, 0x02f935024c36, 0x02f93600753e, 0x02f937024c92,
   0x02f938007570, 0x02f93902219f, 0x02f93a007610, 0x02f93b024fa1, 0x02f93c024fb8, 0x02f93d025044,
   0x02f93e003ffc, 0x02f93f004008, 0x02f9400076f4, 0x02f9410250f3, 0x02f9420250f2, 0x02f943025119,
   0x02f944025133, 0x02f94700771f, 0x02f94800774a, 0x02f949004039, 0x02f94a00778b, 0x02f94b004046,
   0x02f94c004096, 0x02f94d02541d, 0x02f94e00784e, 0x02f94f00788c, 0x02f9500078cc, 0x02f9510040e3,
   0x02f952025626, 0x02f953007956, 0x02f95402569a, 0x02f9550256c5, 0x02f95600798f, 0x02f9570079eb,
   0x02f95800412f, 0x02f959007a40, 0x02f95a007a4a, 0x02f95b007a4f, 0x02f95c02597c, 0x02f95d025aa7,
   0x02f95e025aa7, 0x02f95f007aee, 0x02f960004202, 0x02f961025bab, 0x02f962007bc6, 0x02f963007bc9,
   0x02f964004227, 0x02f965025c80, 0x02f966007cd2, 0x02f9670042a0, 0x02f968007ce8, 0x02f969007ce3,
   0x02f96a007d00, 0x02f96b025f86, 0x02f96c007d63, 0x02f96d004301, 0x02f96e007dc7, 0x02f96f007e02,
   0x02f970007e45, 0x02f971004334, 0x02f972026228, 0x02f973026247, 0x02f974004359, 0x02f9750262d9,
   0x02f976007f7a, 0x02f97702633e, 0x02f978007f95, 0x02f979007ffa, 0x02f97a008005, 0x02f97b0264da,
   0x02f97c026523, 0x02f97d008060, 0x02f97e0265a8, 0x02f97f008070, 0x02f98002335f, 0x02f9810043d5,
   0x02f9820080b2, 0x02f983008103, 0x02f98400440b, 0x02f98500813e, 0x02f986005ab5, 0x02f9870267a7,
   0x02f9880267b5, 0x02f989023393, 0x02f98a02339c, 0x02f98b008201, 0x02f98c008204, 0x02f98d008f9e,
   0x02f98e00446b, 0x02f98f008291, 0x02f99000828b, 0x02f99100829d, 0x02f9920052b3, 0x02f9930082b1,
   0x02f9940082b3, 0x02f9950082bd, 0x02f9960082e6, 0x02f997026b3c, 0x02f9980082e5, 0x02f99900831d,
   0x02f99a008363, 0x02f99b0083ad, 0x02f99c008323, 0x02f99d0083bd, 0x02f99e0083e7, 0x02f99f008457,
   0x02f9a0008353, 0x02f9a10083ca, 0x02f9a20083cc, 0x02f9a30083dc, 0x02f9a4026c36, 0x02f9a5026d6b,
   0x02f9a6026cd5, 0x02f9a700452b, 0x02f9a80084f1, 0x02f9a90084f3, 0x02f9aa008516, 0x02f9ab0273ca,
   0x02f9ac008564, 0x02f9ad026f2c, 0x02f9ae00455d, 0x02f9af004561, 0x02f9b0026fb1, 0x02f9b10270d2,
   0x02f9b200456b, 0x02f9b3008650, 0x02f9b400865c, 0x02f9b5008667, 0x02f9b6008669, 0x02f9b70086a9,
   0x02f9b8008688, 0x02f9b900870e, 0x02f9ba0086e2, 0x02f9bb008779, 0x02f9bc008728, 0x02f9bd00876b,
   0x02f9be008786, 0x02f9bf0045d7, 0x02f9c00087e1, 0x02f9c1008801, 0x02f9c20045f9, 0x02f9c3008860,
   0x02f9c4008863, 0x02f9c5027667, 0x02f9c60088d7, 0x02f9c70088de, 0x02f9c8004635, 0x02f9c90088fa,
   0x02f9ca0034bb, 0x02f9cb0278ae, 0x02f9cc027966, 0x02f9cd0046be, 0x02f9ce0046c7, 0x02f9cf008aa0,
   0x02f9d0008aed, 0x02f9d1008b8a, 0x02f9d2008c55, 0x02f9d3027ca8, 0x02f9d4008cab, 0x02f9d5008cc1,
   0x02f9d6008d1b, 0x02f9d7008d77, 0x02f9d8027f2f, 0x02f9d9020804, 0x02f9da008dcb, 0x02f9db008dbc,
   0x02f9dc008df0, 0x02f9dd0208de, 0x02f9de008ed4, 0x02f9df008f38, 0x02f9e00285d2, 0x02f9e10285ed,
   0x02f9e2009094, 0x02f9e30090f1, 0x02f9e4009111, 0x02f9e502872e, 0x02f9e600911b, 0x02f9e7009238,
   0x02f9ea00927c, 0x02f9eb0093f9, 0x02f9ec009415, 0x02f9ed028bfa, 0x02f9ee00958b, 0x02f9ef004995,
   0x02f9f00095b7, 0x02f9f1028d77, 0x02f9f20049e6, 0x02f9f30096c3, 0x02f9f4005db2, 0x02f9f5009723,
   0x02f9f6029145, 0x02f9f702921a, 0x02f9f8004a6e, 0x02f9f9004a76, 0x02f9fa0097e0, 0x02f9fb02940a,
   0x02f9fc004ab2, 0x02f9fd029496, 0x02f9fe00980b, 0x02f9ff00980b, 0x02fa00009829, 0x02fa010295b6,
   0x02fa020098e2, 0x02fa03004b33, 0x02fa04009929, 0x02fa050099a7, 0x02fa060099c2, 0x02fa070099fe,
   0x02fa08004bce, 0x02fa09029b30, 0x02fa0a009b12, 0x02fa0b009c40, 0x02fa0c009cfd, 0x02fa0d004cce,
   0x02fa0e004ced, 0x02fa0f009d67, 0x02fa1002a0ce, 0x02fa11004cf8, 0x02fa1202a105, 0x02fa1302a20e,
   0x02fa1402a291, 0x02fa15009ebb, 0x02fa16004d56, 0x02fa17009ef9, 0x02fa18009efe, 0x02fa19009f05,
   0x02fa1a009f0f, 0x02fa1b009f16, 0x02fa1c009f3b, 0x02fa1d02a600]

/-- Combining classes: first and last code point and the class. -/
def classSpans : List (Nat × Nat × Nat) :=
  [(0x300, 0x314, 230), (0x315, 0x315, 232), (0x316, 0x319, 220), (0x31a, 0x31a, 232),
   (0x31b, 0x31b, 216), (0x31c, 0x320, 220), (0x321, 0x322, 202), (0x323, 0x326, 220),
   (0x327, 0x328, 202), (0x329, 0x333, 220), (0x334, 0x338, 1), (0x339, 0x33c, 220),
   (0x33d, 0x344, 230), (0x345, 0x345, 240), (0x346, 0x346, 230), (0x347, 0x349, 220),
   (0x34a, 0x34c, 230), (0x34d, 0x34e, 220), (0x350, 0x352, 230), (0x353, 0x356, 220),
   (0x357, 0x357, 230), (0x358, 0x358, 232), (0x359, 0x35a, 220), (0x35b, 0x35b, 230),
   (0x35c, 0x35c, 233), (0x35d, 0x35e, 234), (0x35f, 0x35f, 233), (0x360, 0x361, 234),
   (0x362, 0x362, 233), (0x363, 0x36f, 230), (0x483, 0x487, 230), (0x591, 0x591, 220),
   (0x592, 0x595, 230), (0x596, 0x596, 220), (0x597, 0x599, 230), (0x59a, 0x59a, 222),
   (0x59b, 0x59b, 220), (0x59c, 0x5a1, 230), (0x5a2, 0x5a7, 220), (0x5a8, 0x5a9, 230),
   (0x5aa, 0x5aa, 220), (0x5ab, 0x5ac, 230), (0x5ad, 0x5ad, 222), (0x5ae, 0x5ae, 228),
   (0x5af, 0x5af, 230), (0x5b0, 0x5b0, 10), (0x5b1, 0x5b1, 11), (0x5b2, 0x5b2, 12),
   (0x5b3, 0x5b3, 13), (0x5b4, 0x5b4, 14), (0x5b5, 0x5b5, 15), (0x5b6, 0x5b6, 16),
   (0x5b7, 0x5b7, 17), (0x5b8, 0x5b8, 18), (0x5b9, 0x5ba, 19), (0x5bb, 0x5bb, 20),
   (0x5bc, 0x5bc, 21), (0x5bd, 0x5bd, 22), (0x5bf, 0x5bf, 23), (0x5c1, 0x5c1, 24),
   (0x5c2, 0x5c2, 25), (0x5c4, 0x5c4, 230), (0x5c5, 0x5c5, 220), (0x5c7, 0x5c7, 18),
   (0x610, 0x617, 230), (0x618, 0x618, 30), (0x619, 0x619, 31), (0x61a, 0x61a, 32),
   (0x64b, 0x64b, 27), (0x64c, 0x64c, 28), (0x64d, 0x64d, 29), (0x64e, 0x64e, 30),
   (0x64f, 0x64f, 31), (0x650, 0x650, 32), (0x651, 0x651, 33), (0x652, 0x652, 34),
   (0x653, 0x654, 230), (0x655, 0x656, 220), (0x657, 0x65b, 230), (0x65c, 0x65c, 220),
   (0x65d, 0x65e, 230), (0x65f, 0x65f, 220), (0x670, 0x670, 35), (0x6d6, 0x6dc, 230),
   (0x6df, 0x6e2, 230), (0x6e3, 0x6e3, 220), (0x6e4, 0x6e4, 230), (0x6e7, 0x6e8, 230),
   (0x6ea, 0x6ea, 220), (0x6eb, 0x6ec, 230), (0x6ed, 0x6ed, 220), (0x711, 0x711, 36),
   (0x730, 0x730, 230), (0x731, 0x731, 220), (0x732, 0x733, 230), (0x734, 0x734, 220),
   (0x735, 0x736, 230), (0x737, 0x739, 220), (0x73a, 0x73a, 230), (0x73b, 0x73c, 220),
   (0x73d, 0x73d, 230), (0x73e, 0x73e, 220), (0x73f, 0x741, 230), (0x742, 0x742, 220),
   (0x743, 0x743, 230), (0x744, 0x744, 220), (0x745, 0x745, 230), (0x746, 0x746, 220),
   (0x747, 0x747, 230), (0x748, 0x748, 220), (0x749, 0x74a, 230), (0x7eb, 0x7f1, 230),
   (0x7f2, 0x7f2, 220), (0x7f3, 0x7f3, 230), (0x7fd, 0x7fd, 220), (0x816, 0x819, 230),
   (0x81b, 0x823, 230), (0x825, 0x827, 230), (0x829, 0x82d, 230), (0x859, 0x85b, 220),
   (0x898, 0x898, 230), (0x899, 0x89b, 220), (0x89c, 0x89f, 230), (0x8ca, 0x8ce, 230),
   (0x8cf, 0x8d3, 220), (0x8d4, 0x8e1, 230), (0x8e3, 0x8e3, 220), (0x8e4, 0x8e5, 230),
   (0x8e6, 0x8e6, 220), (0x8e7, 0x8e8, 230), (0x8e9, 0x8e9, 220), (0x8ea, 0x8ec, 230),
   (0x8ed, 0x8ef, 220), (0x8f0, 0x8f0, 27), (0x8f1, 0x8f1, 28), (0x8f2, 0x8f2, 29),
   (0x8f3, 0x8f5, 230), (0x8f6, 0x8f6, 220), (0x8f7, 0x8f8, 230), (0x8f9, 0x8fa, 220),
   (0x8fb, 0x8ff, 230), (0x93c, 0x93c, 7), (0x94d, 0x94d, 9), (0x951, 0x951, 230),
   (0x952, 0x952, 220), (0x953, 0x954, 230), (0x9bc, 0x9bc, 7), (0x9cd, 0x9cd, 9),
   (0x9fe, 0x9fe, 230), (0xa3c, 0xa3c, 7), (0xa4d, 0xa4d, 9), (0xabc, 0xabc, 7), (0xacd, 0xacd, 9),
   (0xb3c, 0xb3c, 7), (0xb4d, 0xb4d, 9), (0xbcd, 0xbcd, 9), (0xc3c, 0xc3c, 7), (0xc4d, 0xc4d, 9),
   (0xc55, 0xc55, 84), (0xc56, 0xc56, 91), (0xcbc, 0xcbc, 7), (0xccd, 0xccd, 9), (0xd3b, 0xd3c, 9),
   (0xd4d, 0xd4d, 9), (0xdca, 0xdca, 9), (0xe38, 0xe39, 103), (0xe3a, 0xe3a, 9),
   (0xe48, 0xe4b, 107), (0xeb8, 0xeb9, 118), (0xeba, 0xeba, 9), (0xec8, 0xecb, 122),
   (0xf18, 0xf19, 220), (0xf35, 0xf35, 220), (0xf37, 0xf37, 220), (0xf39, 0xf39, 216),
   (0xf71, 0xf71, 129), (0xf72, 0xf72, 130), (0xf74, 0xf74, 132), (0xf7a, 0xf7d, 130),
   (0xf80, 0xf80, 130), (0xf82, 0xf83, 230), (0xf84, 0xf84, 9), (0xf86, 0xf87, 230),
   (0xfc6, 0xfc6, 220), (0x1037, 0x1037, 7), (0x1039, 0x103a, 9), (0x108d, 0x108d, 220),
   (0x135d, 0x135f, 230), (0x1714, 0x1715, 9), (0x1734, 0x1734, 9), (0x17d2, 0x17d2, 9),
   (0x17dd, 0x17dd, 230), (0x18a9, 0x18a9, 228), (0x1939, 0x1939, 222), (0x193a, 0x193a, 230),
   (0x193b, 0x193b, 220), (0x1a17, 0x1a17, 230), (0x1a18, 0x1a18, 220), (0x1a60, 0x1a60, 9),
   (0x1a75, 0x1a7c, 230), (0x1a7f, 0x1a7f, 220), (0x1ab0, 0x1ab4, 230), (0x1ab5, 0x1aba, 220),
   (0x1abb, 0x1abc, 230), (0x1abd, 0x1abd, 220), (0x1abf, 0x1ac0, 220), (0x1ac1, 0x1ac2, 230),
   (0x1ac3, 0x1ac4, 220), (0x1ac5, 0x1ac9, 230), (0x1aca, 0x1aca, 220), (0x1acb, 0x1ace, 230),
   (0x1b34, 0x1b34, 7), (0x1b44, 0x1b44, 9), (0x1b6b, 0x1b6b, 230), (0x1b6c, 0x1b6c, 220),
   (0x1b6d, 0x1b73, 230), (0x1baa, 0x1bab, 9), (0x1be6, 0x1be6, 7), (0x1bf2, 0x1bf3, 9),
   (0x1c37, 0x1c37, 7), (0x1cd0, 0x1cd2, 230), (0x1cd4, 0x1cd4, 1), (0x1cd5, 0x1cd9, 220),
   (0x1cda, 0x1cdb, 230), (0x1cdc, 0x1cdf, 220), (0x1ce0, 0x1ce0, 230), (0x1ce2, 0x1ce8, 1),
   (0x1ced, 0x1ced, 220), (0x1cf4, 0x1cf4, 230), (0x1cf8, 0x1cf9, 230), (0x1dc0, 0x1dc1, 230),
   (0x1dc2, 0x1dc2, 220), (0x1dc3, 0x1dc9, 230), (0x1dca, 0x1dca, 220), (0x1dcb, 0x1dcc, 230),
   (0x1dcd, 0x1dcd, 234), (0x1dce, 0x1dce, 214), (0x1dcf, 0x1dcf, 220), (0x1dd0, 0x1dd0, 202),
   (0x1dd1, 0x1df5, 230), (0x1df6, 0x1df6, 232), (0x1df7, 0x1df8, 228), (0x1df9, 0x1df9, 220),
   (0x1dfa, 0x1dfa, 218), (0x1dfb, 0x1dfb, 230), (0x1dfc, 0x1dfc, 233), (0x1dfd, 0x1dfd, 220),
   (0x1dfe, 0x1dfe, 230), (0x1dff, 0x1dff, 220), (0x20d0, 0x20d1, 230), (0x20d2, 0x20d3, 1),
   (0x20d4, 0x20d7, 230), (0x20d8, 0x20da, 1), (0x20db, 0x20dc, 230), (0x20e1, 0x20e1, 230),
   (0x20e5, 0x20e6, 1), (0x20e7, 0x20e7, 230), (0x20e8, 0x20e8, 220), (0x20e9, 0x20e9, 230),
   (0x20ea, 0x20eb, 1), (0x20ec, 0x20ef, 220), (0x20f0, 0x20f0, 230), (0x2cef, 0x2cf1, 230),
   (0x2d7f, 0x2d7f, 9), (0x2de0, 0x2dff, 230), (0x302a, 0x302a, 218), (0x302b, 0x302b, 228),
   (0x302c, 0x302c, 232), (0x302d, 0x302d, 222), (0x302e, 0x302f, 224), (0x3099, 0x309a, 8),
   (0xa66f, 0xa66f, 230), (0xa674, 0xa67d, 230), (0xa69e, 0xa69f, 230), (0xa6f0, 0xa6f1, 230),
   (0xa806, 0xa806, 9), (0xa82c, 0xa82c, 9), (0xa8c4, 0xa8c4, 9), (0xa8e0, 0xa8f1, 230),
   (0xa92b, 0xa92d, 220), (0xa953, 0xa953, 9), (0xa9b3, 0xa9b3, 7), (0xa9c0, 0xa9c0, 9),
   (0xaab0, 0xaab0, 230), (0xaab2, 0xaab3, 230), (0xaab4, 0xaab4, 220), (0xaab7, 0xaab8, 230),
   (0xaabe, 0xaabf, 230), (0xaac1, 0xaac1, 230), (0xaaf6, 0xaaf6, 9), (0xabed, 0xabed, 9),
   (0xfb1e, 0xfb1e, 26), (0xfe20, 0xfe26, 230), (0xfe27, 0xfe2d, 220), (0xfe2e, 0xfe2f, 230),
   (0x101fd, 0x101fd, 220), (0x102e0, 0x102e0, 220), (0x10376, 0x1037a, 230),
   (0x10a0d, 0x10a0d, 220), (0x10a0f, 0x10a0f, 230), (0x10a38, 0x10a38, 230), (0x10a39, 0x10a39, 1),
   (0x10a3a, 0x10a3a, 220), (0x10a3f, 0x10a3f, 9), (0x10ae5, 0x10ae5, 230), (0x10ae6, 0x10ae6, 220),
   (0x10d24, 0x10d27, 230), (0x10eab, 0x10eac, 230), (0x10f46, 0x10f47, 220),
   (0x10f48, 0x10f4a, 230), (0x10f4b, 0x10f4b, 220), (0x10f4c, 0x10f4c, 230),
   (0x10f4d, 0x10f50, 220), (0x10f82, 0x10f82, 230), (0x10f83, 0x10f83, 220),
   (0x10f84, 0x10f84, 230), (0x10f85, 0x10f85, 220), (0x11046, 0x11046, 9), (0x11070, 0x11070, 9),
   (0x1107f, 0x1107f, 9), (0x110b9, 0x110b9, 9), (0x110ba, 0x110ba, 7), (0x11100, 0x11102, 230),
   (0x11133, 0x11134, 9), (0x11173, 0x11173, 7), (0x111c0, 0x111c0, 9), (0x111ca, 0x111ca, 7),
   (0x11235, 0x11235, 9), (0x11236, 0x11236, 7), (0x112e9, 0x112e9, 7), (0x112ea, 0x112ea, 9),
   (0x1133b, 0x1133c, 7), (0x1134d, 0x1134d, 9), (0x11366, 0x1136c, 230), (0x11370, 0x11374, 230),
   (0x11442, 0x11442, 9), (0x11446, 0x11446, 7), (0x1145e, 0x1145e, 230), (0x114c2, 0x114c2, 9),
   (0x114c3, 0x114c3, 7), (0x115bf, 0x115bf, 9), (0x115c0, 0x115c0, 7), (0x1163f, 0x1163f, 9),
   (0x116b6, 0x116b6, 9), (0x116b7, 0x116b7, 7), (0x1172b, 0x1172b, 9), (0x11839, 0x11839, 9),
   (0x1183a, 0x1183a, 7), (0x1193d, 0x1193e, 9), (0x11943, 0x11943, 7), (0x119e0, 0x119e0, 9),
   (0x11a34, 0x11a34, 9), (0x11a47, 0x11a47, 9), (0x11a99, 0x11a99, 9), (0x11c3f, 0x11c3f, 9),
   (0x11d42, 0x11d42, 7), (0x11d44, 0x11d45, 9), (0x11d97, 0x11d97, 9), (0x16af0, 0x16af4, 1),
   (0x16b30, 0x16b36, 230), (0x16ff0, 0x16ff1, 6), (0x1bc9e, 0x1bc9e, 1), (0x1d165, 0x1d166, 216),
   (0x1d167, 0x1d169, 1), (0x1d16d, 0x1d16d, 226), (0x1d16e, 0x1d172, 216), (0x1d17b, 0x1d182, 220),
   (0x1d185, 0x1d189, 230), (0x1d18a, 0x1d18b, 220), (0x1d1aa, 0x1d1ad, 230),
   (0x1d242, 0x1d244, 230), (0x1e000, 0x1e006, 230), (0x1e008, 0x1e018, 230),
   (0x1e01b, 0x1e021, 230), (0x1e023, 0x1e024, 230), (0x1e026, 0x1e02a, 230),
   (0x1e130, 0x1e136, 230), (0x1e2ae, 0x1e2ae, 230), (0x1e2ec, 0x1e2ef, 230),
   (0x1e8d0, 0x1e8d6, 220), (0x1e944, 0x1e949, 230), (0x1e94a, 0x1e94a, 7)]

/-- Pairs that compose: first, second and composite, six hexadecimal digits each. -/
def pairs : List Nat :=
  [0x0000410003000000c0, 0x0000410003010000c1, 0x0000410003020000c2, 0x0000410003030000c3,
   0x0000410003080000c4, 0x00004100030a0000c5, 0x0000430003270000c7, 0x0000450003000000c8,
   0x0000450003010000c9, 0x0000450003020000ca, 0x0000450003080000cb, 0x0000490003000000cc,
   0x0000490003010000cd, 0x0000490003020000ce, 0x0000490003080000cf, 0x00004e0003030000d1,
   0x00004f0003000000d2, 0x00004f0003010000d3, 0x00004f0003020000d4, 0x00004f0003030000d5,
   0x00004f0003080000d6, 0x0000550003000000d9, 0x0000550003010000da, 0x0000550003020000db,
   0x0000550003080000dc, 0x0000590003010000dd, 0x0000610003000000e0, 0x0000610003010000e1,
   0x0000610003020000e2, 0x0000610003030000e3, 0x0000610003080000e4, 0x00006100030a0000e5,
   0x0000630003270000e7, 0x0000650003000000e8, 0x0000650003010000e9, 0x0000650003020000ea,
   0x0000650003080000eb, 0x0000690003000000ec, 0x0000690003010000ed, 0x0000690003020000ee,
   0x0000690003080000ef, 0x00006e0003030000f1, 0x00006f0003000000f2, 0x00006f0003010000f3,
   0x00006f0003020000f4, 0x00006f0003030000f5, 0x00006f0003080000f6, 0x0000750003000000f9,
   0x0000750003010000fa, 0x0000750003020000fb, 0x0000750003080000fc, 0x0000790003010000fd,
   0x0000790003080000ff, 0x000041000304000100, 0x000061000304000101, 0x000041000306000102,
   0x000061000306000103, 0x000041000328000104, 0x000061000328000105, 0x000043000301000106,
   0x000063000301000107, 0x000043000302000108, 0x000063000302000109, 0x00004300030700010a,
   0x00006300030700010b, 0x00004300030c00010c, 0x00006300030c00010d, 0x00004400030c00010e,
   0x00006400030c00010f, 0x000045000304000112, 0x000065000304000113, 0x000045000306000114,
   0x000065000306000115, 0x000045000307000116, 0x000065000307000117, 0x000045000328000118,
   0x000065000328000119, 0x00004500030c00011a, 0x00006500030c00011b, 0x00004700030200011c,
   0x00006700030200011d, 0x00004700030600011e, 0x00006700030600011f, 0x000047000307000120,
   0x000067000307000121, 0x000047000327000122, 0x000067000327000123, 0x000048000302000124,
   0x000068000302000125, 0x000049000303000128, 0x000069000303000129, 0x00004900030400012a,
   0x00006900030400012b, 0x00004900030600012c, 0x00006900030600012d, 0x00004900032800012e,
   0x00006900032800012f, 0x000049000307000130, 0x00004a000302000134, 0x00006a000302000135,
   0x00004b000327000136, 0x00006b000327000137, 0x00004c000301000139, 0x00006c00030100013a,
   0x00004c00032700013b, 0x00006c00032700013c, 0x00004c00030c00013d, 0x00006c00030c00013e,
   0x00004e000301000143, 0x00006e000301000144, 0x00004e000327000145, 0x00006e000327000146,
   0x00004e00030c000147, 0x00006e00030c000148, 0x00004f00030400014c, 0x00006f00030400014d,
   0x00004f00030600014e, 0x00006f00030600014f, 0x00004f00030b000150, 0x00006f00030b000151,
   0x000052000301000154, 0x000072000301000155, 0x000052000327000156, 0x000072000327000157,
   0x00005200030c000158, 0x00007200030c000159, 0x00005300030100015a, 0x00007300030100015b,
   0x00005300030200015c, 0x00007300030200015d, 0x00005300032700015e, 0x00007300032700015f,
   0x00005300030c000160, 0x00007300030c000161, 0x000054000327000162, 0x000074000327000163,
   0x00005400030c000164, 0x00007400030c000165, 0x000055000303000168, 0x000075000303000169,
   0x00005500030400016a, 0x00007500030400016b, 0x00005500030600016c, 0x00007500030600016d,
   0x00005500030a00016e, 0x00007500030a00016f, 0x00005500030b000170, 0x00007500030b000171,
   0x000055000328000172, 0x000075000328000173, 0x000057000302000174, 0x000077000302000175,
   0x000059000302000176, 0x000079000302000177, 0x000059000308000178, 0x00005a000301000179,
   0x00007a00030100017a, 0x00005a00030700017b, 0x00007a00030700017c, 0x00005a00030c00017d,
   0x00007a00030c00017e, 0x00004f00031b0001a0, 0x00006f00031b0001a1, 0x00005500031b0001af,
   0x00007500031b0001b0, 0x00004100030c0001cd, 0x00006100030c0001ce, 0x00004900030c0001cf,
   0x00006900030c0001d0, 0x00004f00030c0001d1, 0x00006f00030c0001d2, 0x00005500030c0001d3,
   0x00007500030c0001d4, 0x0000dc0003040001d5, 0x0000fc0003040001d6, 0x0000dc0003010001d7,
   0x0000fc0003010001d8, 0x0000dc00030c0001d9, 0x0000fc00030c0001da, 0x0000dc0003000001db,
   0x0000fc0003000001dc, 0x0000c40003040001de, 0x0000e40003040001df, 0x0002260003040001e0,
   0x0002270003040001e1, 0x0000c60003040001e2, 0x0000e60003040001e3, 0x00004700030c0001e6,
   0x00006700030c0001e7, 0x00004b00030c0001e8, 0x00006b00030c0001e9, 0x00004f0003280001ea,
   0x00006f0003280001eb, 0x0001ea0003040001ec, 0x0001eb0003040001ed, 0x0001b700030c0001ee,
   0x00029200030c0001ef, 0x00006a00030c0001f0, 0x0000470003010001f4, 0x0000670003010001f5,
   0x00004e0003000001f8, 0x00006e0003000001f9, 0x0000c50003010001fa, 0x0000e50003010001fb,
   0x0000c60003010001fc, 0x0000e60003010001fd, 0x0000d80003010001fe, 0x0000f80003010001ff,
   0x00004100030f000200, 0x00006100030f000201, 0x000041000311000202, 0x000061000311000203,
   0x00004500030f000204, 0x00006500030f000205, 0x000045000311000206, 0x000065000311000207,
   0x00004900030f000208, 0x00006900030f000209, 0x00004900031100020a, 0x00006900031100020b,
   0x00004f00030f00020c, 0x00006f00030f00020d, 0x00004f00031100020e, 0x00006f00031100020f,
   0x00005200030f000210, 0x00007200030f000211, 0x000052000311000212, 0x000072000311000213,
   0x00005500030f000214, 0x00007500030f000215, 0x000055000311000216, 0x000075000311000217,
   0x000053000326000218, 0x000073000326000219, 0x00005400032600021a, 0x00007400032600021b,
   0x00004800030c00021e, 0x00006800030c00021f, 0x000041000307000226, 0x000061000307000227,
   0x000045000327000228, 0x000065000327000229, 0x0000d600030400022a, 0x0000f600030400022b,
   0x0000d500030400022c, 0x0000f500030400022d, 0x00004f00030700022e, 0x00006f00030700022f,
   0x00022e000304000230, 0x00022f000304000231, 0x000059000304000232, 0x000079000304000233,
   0x0000a8000301000385, 0x000391000301000386, 0x000395000301000388, 0x000397000301000389,
   0x00039900030100038a, 0x00039f00030100038c, 0x0003a500030100038e, 0x0003a900030100038f,
   0x0003ca000301000390, 0x0003990003080003aa, 0x0003a50003080003ab, 0x0003b10003010003ac,
   0x0003b50003010003ad, 0x0003b70003010003ae, 0x0003b90003010003af, 0x0003cb0003010003b0,
   0x0003b90003080003ca, 0x0003c50003080003cb, 0x0003bf0003010003cc, 0x0003c50003010003cd,
   0x0003c90003010003ce, 0x0003d20003010003d3, 0x0003d20003080003d4, 0x000415000300000400,
   0x000415000308000401, 0x000413000301000403, 0x000406000308000407, 0x00041a00030100040c,
   0x00041800030000040d, 0x00042300030600040e, 0x000418000306000419, 0x000438000306000439,
   0x000435000300000450, 0x000435000308000451, 0x000433000301000453, 0x000456000308000457,
   0x00043a00030100045c, 0x00043800030000045d, 0x00044300030600045e, 0x00047400030f000476,
   0x00047500030f000477, 0x0004160003060004c1, 0x0004360003060004c2, 0x0004100003060004d0,
   0x0004300003060004d1, 0x0004100003080004d2, 0x0004300003080004d3, 0x0004150003060004d6,
   0x0004350003060004d7, 0x0004d80003080004da, 0x0004d90003080004db, 0x0004160003080004dc,
   0x0004360003080004dd, 0x0004170003080004de, 0x0004370003080004df, 0x0004180003040004e2,
   0x0004380003040004e3, 0x0004180003080004e4, 0x0004380003080004e5, 0x00041e0003080004e6,
   0x00043e0003080004e7, 0x0004e80003080004ea, 0x0004e90003080004eb, 0x00042d0003080004ec,
   0x00044d0003080004ed, 0x0004230003040004ee, 0x0004430003040004ef, 0x0004230003080004f0,
   0x0004430003080004f1, 0x00042300030b0004f2, 0x00044300030b0004f3, 0x0004270003080004f4,
   0x0004470003080004f5, 0x00042b0003080004f8, 0x00044b0003080004f9, 0x000627000653000622,
   0x000627000654000623, 0x000648000654000624, 0x000627000655000625, 0x00064a000654000626,
   0x0006d50006540006c0, 0x0006c10006540006c2, 0x0006d20006540006d3, 0x00092800093c000929,
   0x00093000093c000931, 0x00093300093c000934, 0x0009c70009be0009cb, 0x0009c70009d70009cc,
   0x000b47000b56000b48, 0x000b47000b3e000b4b, 0x000b47000b57000b4c, 0x000b92000bd7000b94,
   0x000bc6000bbe000bca, 0x000bc7000bbe000bcb, 0x000bc6000bd7000bcc, 0x000c46000c56000c48,
   0x000cbf000cd5000cc0, 0x000cc6000cd5000cc7, 0x000cc6000cd6000cc8, 0x000cc6000cc2000cca,
   0x000cca000cd5000ccb, 0x000d46000d3e000d4a, 0x000d47000d3e000d4b, 0x000d46000d57000d4c,
   0x000dd9000dca000dda, 0x000dd9000dcf000ddc, 0x000ddc000dca000ddd, 0x000dd9000ddf000dde,
   0x00102500102e001026, 0x001b05001b35001b06, 0x001b07001b35001b08, 0x001b09001b35001b0a,
   0x001b0b001b35001b0c, 0x001b0d001b35001b0e, 0x001b11001b35001b12, 0x001b3a001b35001b3b,
   0x001b3c001b35001b3d, 0x001b3e001b35001b40, 0x001b3f001b35001b41, 0x001b42001b35001b43,
   0x000041000325001e00, 0x000061000325001e01, 0x000042000307001e02, 0x000062000307001e03,
   0x000042000323001e04, 0x000062000323001e05, 0x000042000331001e06, 0x000062000331001e07,
   0x0000c7000301001e08, 0x0000e7000301001e09, 0x000044000307001e0a, 0x000064000307001e0b,
   0x000044000323001e0c, 0x000064000323001e0d, 0x000044000331001e0e, 0x000064000331001e0f,
   0x000044000327001e10, 0x000064000327001e11, 0x00004400032d001e12, 0x00006400032d001e13,
   0x000112000300001e14, 0x000113000300001e15, 0x000112000301001e16, 0x000113000301001e17,
   0x00004500032d001e18, 0x00006500032d001e19, 0x000045000330001e1a, 0x000065000330001e1b,
   0x000228000306001e1c, 0x000229000306001e1d, 0x000046000307001e1e, 0x000066000307001e1f,
   0x000047000304001e20, 0x000067000304001e21, 0x000048000307001e22, 0x000068000307001e23,
   0x000048000323001e24, 0x000068000323001e25, 0x000048000308001e26, 0x000068000308001e27,
   0x000048000327001e28, 0x000068000327001e29, 0x00004800032e001e2a, 0x00006800032e001e2b,
   0x000049000330001e2c, 0x000069000330001e2d, 0x0000cf000301001e2e, 0x0000ef000301001e2f,
   0x00004b000301001e30, 0x00006b000301001e31, 0x00004b000323001e32, 0x00006b000323001e33,
   0x00004b000331001e34, 0x00006b000331001e35, 0x00004c000323001e36, 0x00006c000323001e37,
   0x001e36000304001e38, 0x001e37000304001e39, 0x00004c000331001e3a, 0x00006c000331001e3b,
   0x00004c00032d001e3c, 0x00006c00032d001e3d, 0x00004d000301001e3e, 0x00006d000301001e3f,
   0x00004d000307001e40, 0x00006d000307001e41, 0x00004d000323001e42, 0x00006d000323001e43,
   0x00004e000307001e44, 0x00006e000307001e45, 0x00004e000323001e46, 0x00006e000323001e47,
   0x00004e000331001e48, 0x00006e000331001e49, 0x00004e00032d001e4a, 0x00006e00032d001e4b,
   0x0000d5000301001e4c, 0x0000f5000301001e4d, 0x0000d5000308001e4e, 0x0000f5000308001e4f,
   0x00014c000300001e50, 0x00014d000300001e51, 0x00014c000301001e52, 0x00014d000301001e53,
   0x000050000301001e54, 0x000070000301001e55, 0x000050000307001e56, 0x000070000307001e57,
   0x000052000307001e58, 0x000072000307001e59, 0x000052000323001e5a, 0x000072000323001e5b,
   0x001e5a000304001e5c, 0x001e5b000304001e5d, 0x000052000331001e5e, 0x000072000331001e5f,
   0x000053000307001e60, 0x000073000307001e61, 0x000053000323001e62, 0x000073000323001e63,
   0x00015a000307001e64, 0x00015b000307001e65, 0x000160000307001e66, 0x000161000307001e67,
   0x001e62000307001e68, 0x001e63000307001e69, 0x000054000307001e6a, 0x000074000307001e6b,
   0x000054000323001e6c, 0x000074000323001e6d, 0x000054000331001e6e, 0x000074000331001e6f,
   0x00005400032d001e70, 0x00007400032d001e71, 0x000055000324001e72, 0x000075000324001e73,
   0x000055000330001e74, 0x000075000330001e75, 0x00005500032d001e76, 0x00007500032d001e77,
   0x000168000301001e78, 0x000169000301001e79, 0x00016a000308001e7a, 0x00016b000308001e7b,
   0x000056000303001e7c, 0x000076000303001e7d, 0x000056000323001e7e, 0x000076000323001e7f,
   0x000057000300001e80, 0x000077000300001e81, 0x000057000301001e82, 0x000077000301001e83,
   0x000057000308001e84, 0x000077000308001e85, 0x000057000307001e86, 0x000077000307001e87,
   0x000057000323001e88, 0x000077000323001e89, 0x000058000307001e8a, 0x000078000307001e8b,
   0x000058000308001e8c, 0x000078000308001e8d, 0x000059000307001e8e, 0x000079000307001e8f,
   0x00005a000302001e90, 0x00007a000302001e91, 0x00005a000323001e92, 0x00007a000323001e93,
   0x00005a000331001e94, 0x00007a000331001e95, 0x000068000331001e96, 0x000074000308001e97,
   0x00007700030a001e98, 0x00007900030a001e99, 0x00017f000307001e9b, 0x000041000323001ea0,
   0x000061000323001ea1, 0x000041000309001ea2, 0x000061000309001ea3, 0x0000c2000301001ea4,
   0x0000e2000301001ea5, 0x0000c2000300001ea6, 0x0000e2000300001ea7, 0x0000c2000309001ea8,
   0x0000e2000309001ea9, 0x0000c2000303001eaa, 0x0000e2000303001eab, 0x001ea0000302001eac,
   0x001ea1000302001ead, 0x000102000301001eae, 0x000103000301001eaf, 0x000102000300001eb0,
   0x000103000300001eb1, 0x000102000309001eb2, 0x000103000309001eb3, 0x000102000303001eb4,
   0x000103000303001eb5, 0x001ea0000306001eb6, 0x001ea1000306001eb7, 0x000045000323001eb8,
   0x000065000323001eb9, 0x000045000309001eba, 0x000065000309001ebb, 0x000045000303001ebc,
   0x000065000303001ebd, 0x0000ca000301001ebe, 0x0000ea000301001ebf, 0x0000ca000300001ec0,
   0x0000ea000300001ec1, 0x0000ca000309001ec2, 0x0000ea000309001ec3, 0x0000ca000303001ec4,
   0x0000ea000303001ec5, 0x001eb8000302001ec6, 0x001eb9000302001ec7, 0x000049000309001ec8,
   0x000069000309001ec9, 0x000049000323001eca, 0x000069000323001ecb, 0x00004f000323001ecc,
   0x00006f000323001ecd, 0x00004f000309001ece, 0x00006f000309001ecf, 0x0000d4000301001ed0,
   0x0000f4000301001ed1, 0x0000d4000300001ed2, 0x0000f4000300001ed3, 0x0000d4000309001ed4,
   0x0000f4000309001ed5, 0x0000d4000303001ed6, 0x0000f4000303001ed7, 0x001ecc000302001ed8,
   0x001ecd000302001ed9, 0x0001a0000301001eda, 0x0001a1000301001edb, 0x0001a0000300001edc,
   0x0001a1000300001edd, 0x0001a0000309001ede, 0x0001a1000309001edf, 0x0001a0000303001ee0,
   0x0001a1000303001ee1, 0x0001a0000323001ee2, 0x0001a1000323001ee3, 0x000055000323001ee4,
   0x000075000323001ee5, 0x000055000309001ee6, 0x000075000309001ee7, 0x0001af000301001ee8,
   0x0001b0000301001ee9, 0x0001af000300001eea, 0x0001b0000300001eeb, 0x0001af000309001eec,
   0x0001b0000309001eed, 0x0001af000303001eee, 0x0001b0000303001eef, 0x0001af000323001ef0,
   0x0001b0000323001ef1, 0x000059000300001ef2, 0x000079000300001ef3, 0x000059000323001ef4,
   0x000079000323001ef5, 0x000059000309001ef6, 0x000079000309001ef7, 0x000059000303001ef8,
   0x000079000303001ef9, 0x0003b1000313001f00, 0x0003b1000314001f01, 0x001f00000300001f02,
   0x001f01000300001f03, 0x001f00000301001f04, 0x001f01000301001f05, 0x001f00000342001f06,
   0x001f01000342001f07, 0x000391000313001f08, 0x000391000314001f09, 0x001f08000300001f0a,
   0x001f09000300001f0b, 0x001f08000301001f0c, 0x001f09000301001f0d, 0x001f08000342001f0e,
   0x001f09000342001f0f, 0x0003b5000313001f10, 0x0003b5000314001f11, 0x001f10000300001f12,
   0x001f11000300001f13, 0x001f10000301001f14, 0x001f11000301001f15, 0x000395000313001f18,
   0x000395000314001f19, 0x001f18000300001f1a, 0x001f19000300001f1b, 0x001f18000301001f1c,
   0x001f19000301001f1d, 0x0003b7000313001f20, 0x0003b7000314001f21, 0x001f20000300001f22,
   0x001f21000300001f23, 0x001f20000301001f24, 0x001f21000301001f25, 0x001f20000342001f26,
   0x001f21000342001f27, 0x000397000313001f28, 0x000397000314001f29, 0x001f28000300001f2a,
   0x001f29000300001f2b, 0x001f28000301001f2c, 0x001f29000301001f2d, 0x001f28000342001f2e,
   0x001f29000342001f2f, 0x0003b9000313001f30, 0x0003b9000314001f31, 0x001f30000300001f32,
   0x001f31000300001f33, 0x001f30000301001f34, 0x001f31000301001f35, 0x001f30000342001f36,
   0x001f31000342001f37, 0x000399000313001f38, 0x000399000314001f39, 0x001f38000300001f3a,
   0x001f39000300001f3b, 0x001f38000301001f3c, 0x001f39000301001f3d, 0x001f38000342001f3e,
   0x001f39000342001f3f, 0x0003bf000313001f40, 0x0003bf000314001f41, 0x001f40000300001f42,
   0x001f41000300001f43, 0x001f40000301001f44, 0x001f41000301001f45, 0x00039f000313001f48,
   0x00039f000314001f49, 0x001f48000300001f4a, 0x001f49000300001f4b, 0x001f48000301001f4c,
   0x001f49000301001f4d, 0x0003c5000313001f50, 0x0003c5000314001f51, 0x001f50000300001f52,
   0x001f51000300001f53, 0x001f50000301001f54, 0x001f51000301001f55, 0x001f50000342001f56,
   0x001f51000342001f57, 0x0003a5000314001f59, 0x001f59000300001f5b, 0x001f59000301001f5d,
   0x001f59000342001f5f, 0x0003c9000313001f60, 0x0003c9000314001f61, 0x001f60000300001f62,
   0x001f61000300001f63, 0x001f60000301001f64, 0x001f61000301001f65, 0x001f60000342001f66,
   0x001f61000342001f67, 0x0003a9000313001f68, 0x0003a9000314001f69, 0x001f68000300001f6a,
   0x001f69000300001f6b, 0x001f68000301001f6c, 0x001f69000301001f6d, 0x001f68000342001f6e,
   0x001f69000342001f6f, 0x0003b1000300001f70, 0x0003b5000300001f72, 0x0003b7000300001f74,
   0x0003b9000300001f76, 0x0003bf000300001f78, 0x0003c5000300001f7a, 0x0003c9000300001f7c,
   0x001f00000345001f80, 0x001f01000345001f81, 0x001f02000345001f82, 0x001f03000345001f83,
   0x001f04000345001f84, 0x001f05000345001f85, 0x001f06000345001f86, 0x001f07000345001f87,
   0x001f08000345001f88, 0x001f09000345001f89, 0x001f0a000345001f8a, 0x001f0b000345001f8b,
   0x001f0c000345001f8c, 0x001f0d000345001f8d, 0x001f0e000345001f8e, 0x001f0f000345001f8f,
   0x001f20000345001f90, 0x001f21000345001f91, 0x001f22000345001f92, 0x001f23000345001f93,
   0x001f24000345001f94, 0x001f25000345001f95, 0x001f26000345001f96, 0x001f27000345001f97,
   0x001f28000345001f98, 0x001f29000345001f99, 0x001f2a000345001f9a, 0x001f2b000345001f9b,
   0x001f2c000345001f9c, 0x001f2d000345001f9d, 0x001f2e000345001f9e, 0x001f2f000345001f9f,
   0x001f60000345001fa0, 0x001f61000345001fa1, 0x001f62000345001fa2, 0x001f63000345001fa3,
   0x001f64000345001fa4, 0x001f65000345001fa5, 0x001f66000345001fa6, 0x001f67000345001fa7,
   0x001f68000345001fa8, 0x001f69000345001fa9, 0x001f6a000345001faa, 0x001f6b000345001fab,
   0x001f6c000345001fac, 0x001f6d000345001fad, 0x001f6e000345001fae, 0x001f6f000345001faf,
   0x0003b1000306001fb0, 0x0003b1000304001fb1, 0x001f70000345001fb2, 0x0003b1000345001fb3,
   0x0003ac000345001fb4, 0x0003b1000342001fb6, 0x001fb6000345001fb7, 0x000391000306001fb8,
   0x000391000304001fb9, 0x000391000300001fba, 0x000391000345001fbc, 0x0000a8000342001fc1,
   0x001f74000345001fc2, 0x0003b7000345001fc3, 0x0003ae000345001fc4, 0x0003b7000342001fc6,
   0x001fc6000345001fc7, 0x000395000300001fc8, 0x000397000300001fca, 0x000397000345001fcc,
   0x001fbf000300001fcd, 0x001fbf000301001fce, 0x001fbf000342001fcf, 0x0003b9000306001fd0,
   0x0003b9000304001fd1, 0x0003ca000300001fd2, 0x0003b9000342001fd6, 0x0003ca000342001fd7,
   0x000399000306001fd8, 0x000399000304001fd9, 0x000399000300001fda, 0x001ffe000300001fdd,
   0x001ffe000301001fde, 0x001ffe000342001fdf, 0x0003c5000306001fe0, 0x0003c5000304001fe1,
   0x0003cb000300001fe2, 0x0003c1000313001fe4, 0x0003c1000314001fe5, 0x0003c5000342001fe6,
   0x0003cb000342001fe7, 0x0003a5000306001fe8, 0x0003a5000304001fe9, 0x0003a5000300001fea,
   0x0003a1000314001fec, 0x0000a8000300001fed, 0x001f7c000345001ff2, 0x0003c9000345001ff3,
   0x0003ce000345001ff4, 0x0003c9000342001ff6, 0x001ff6000345001ff7, 0x00039f000300001ff8,
   0x0003a9000300001ffa, 0x0003a9000345001ffc, 0x00219000033800219a, 0x00219200033800219b,
   0x0021940003380021ae, 0x0021d00003380021cd, 0x0021d40003380021ce, 0x0021d20003380021cf,
   0x002203000338002204, 0x002208000338002209, 0x00220b00033800220c, 0x002223000338002224,
   0x002225000338002226, 0x00223c000338002241, 0x002243000338002244, 0x002245000338002247,
   0x002248000338002249, 0x00003d000338002260, 0x002261000338002262, 0x00224d00033800226d,
   0x00003c00033800226e, 0x00003e00033800226f, 0x002264000338002270, 0x002265000338002271,
   0x002272000338002274, 0x002273000338002275, 0x002276000338002278, 0x002277000338002279,
   0x00227a000338002280, 0x00227b000338002281, 0x002282000338002284, 0x002283000338002285,
   0x002286000338002288, 0x002287000338002289, 0x0022a20003380022ac, 0x0022a80003380022ad,
   0x0022a90003380022ae, 0x0022ab0003380022af, 0x00227c0003380022e0, 0x00227d0003380022e1,
   0x0022910003380022e2, 0x0022920003380022e3, 0x0022b20003380022ea, 0x0022b30003380022eb,
   0x0022b40003380022ec, 0x0022b50003380022ed, 0x00304b00309900304c, 0x00304d00309900304e,
   0x00304f003099003050, 0x003051003099003052, 0x003053003099003054, 0x003055003099003056,
   0x003057003099003058, 0x00305900309900305a, 0x00305b00309900305c, 0x00305d00309900305e,
   0x00305f003099003060, 0x003061003099003062, 0x003064003099003065, 0x003066003099003067,
   0x003068003099003069, 0x00306f003099003070, 0x00306f00309a003071, 0x003072003099003073,
   0x00307200309a003074, 0x003075003099003076, 0x00307500309a003077, 0x003078003099003079,
   0x00307800309a00307a, 0x00307b00309900307c, 0x00307b00309a00307d, 0x003046003099003094,
   0x00309d00309900309e, 0x0030ab0030990030ac, 0x0030ad0030990030ae, 0x0030af0030990030b0,
   0x0030b10030990030b2, 0x0030b30030990030b4, 0x0030b50030990030b6, 0x0030b70030990030b8,
   0x0030b90030990030ba, 0x0030bb0030990030bc, 0x0030bd0030990030be, 0x0030bf0030990030c0,
   0x0030c10030990030c2, 0x0030c40030990030c5, 0x0030c60030990030c7, 0x0030c80030990030c9,
   0x0030cf0030990030d0, 0x0030cf00309a0030d1, 0x0030d20030990030d3, 0x0030d200309a0030d4,
   0x0030d50030990030d6, 0x0030d500309a0030d7, 0x0030d80030990030d9, 0x0030d800309a0030da,
   0x0030db0030990030dc, 0x0030db00309a0030dd, 0x0030a60030990030f4, 0x0030ef0030990030f7,
   0x0030f00030990030f8, 0x0030f10030990030f9, 0x0030f20030990030fa, 0x0030fd0030990030fe,
   0x0110990110ba01109a, 0x01109b0110ba01109c, 0x0110a50110ba0110ab, 0x01113101112701112e,
   0x01113201112701112f, 0x01134701133e01134b, 0x01134701135701134c, 0x0114b90114ba0114bb,
   0x0114b90114b00114bc, 0x0114b90114bd0114be, 0x0115b80115af0115ba, 0x0115b90115af0115bb,
   0x011935011930011938]

end Stencil.Text.Compose

import TenantAccess.Crypto.CurveEquation

/-! The curves that have a name but serve no algorithm here. Keys on them can be read. -/

namespace TenantAccess.Crypto.CurveEquation

/-- The written names of the curves and their equations. -/
def named : List (List UInt8 × CurveEquation) := [
  ([0x2B, 0x81, 0x04, 0x00, 0x06], .prime 0xdb7c2abf62e35e668076bead208b
    0xdb7c2abf62e35e668076bead2088
    0x659ef8ba043916eede8911702b22),
  ([0x2B, 0x81, 0x04, 0x00, 0x07], .prime 0xdb7c2abf62e35e668076bead208b
    0x6127c24c05f38a0aaaf65c0ef02c
    0x51def1815db5ed74fcc34c85d709),
  ([0x2B, 0x81, 0x04, 0x00, 0x1C], .prime 0xfffffffdffffffffffffffffffffffff
    0xfffffffdfffffffffffffffffffffffc
    0xe87579c11079f43dd824993c2cee5ed3),
  ([0x2B, 0x81, 0x04, 0x00, 0x1D], .prime 0xfffffffdffffffffffffffffffffffff
    0xd6031998d1b3bbfebf59cc9bbff9aee1
    0x5eeefca380d02919dc2c6558bb6d8a5d),
  ([0x2B, 0x81, 0x04, 0x00, 0x09], .prime 0xfffffffffffffffffffffffffffffffeffffac73
    0x0
    0x7),
  ([0x2B, 0x81, 0x04, 0x00, 0x08], .prime 0xffffffffffffffffffffffffffffffff7fffffff
    0xffffffffffffffffffffffffffffffff7ffffffc
    0x1c97befc54bd7a8b65acf89f81d4d4adc565fa45),
  ([0x2B, 0x81, 0x04, 0x00, 0x1E], .prime 0xfffffffffffffffffffffffffffffffeffffac73
    0xfffffffffffffffffffffffffffffffeffffac70
    0xb4e134d3fb59eb8bab57274904664d5af50388ba),
  ([0x2B, 0x81, 0x04, 0x00, 0x1F], .prime 0xfffffffffffffffffffffffffffffffffffffffeffffee37
    0x0
    0x3),
  ([0x2B, 0x81, 0x04, 0x00, 0x20], .prime 0xfffffffffffffffffffffffffffffffffffffffffffffffeffffe56d
    0x0
    0x5),
  ([0x2B, 0x81, 0x04, 0x00, 0x21], .prime 0xffffffffffffffffffffffffffffffff000000000000000000000001
    0xfffffffffffffffffffffffffffffffefffffffffffffffffffffffe
    0xb4050a850c04b3abf54132565044b0b7d7bfd8ba270b39432355ffb4),
  ([0x2A, 0x86, 0x48, 0xCE, 0x3D, 0x03, 0x01, 0x01], .prime 0xfffffffffffffffffffffffffffffffeffffffffffffffff
    0xfffffffffffffffffffffffffffffffefffffffffffffffc
    0x64210519e59c80e70fa7e9ab72243049feb8deecc146b9b1),
  ([0x2A, 0x86, 0x48, 0xCE, 0x3D, 0x03, 0x01, 0x02], .prime 0xfffffffffffffffffffffffffffffffeffffffffffffffff
    0xfffffffffffffffffffffffffffffffefffffffffffffffc
    0xcc22d6dfb95c6b25e49c0d6364a4e5980c393aa21668d953),
  ([0x2A, 0x86, 0x48, 0xCE, 0x3D, 0x03, 0x01, 0x03], .prime 0xfffffffffffffffffffffffffffffffeffffffffffffffff
    0xfffffffffffffffffffffffffffffffefffffffffffffffc
    0x22123dc2395a05caa7423daeccc94760a7d462256bd56916),
  ([0x2A, 0x86, 0x48, 0xCE, 0x3D, 0x03, 0x01, 0x04], .prime 0x7fffffffffffffffffffffff7fffffffffff8000000000007fffffffffff
    0x7fffffffffffffffffffffff7fffffffffff8000000000007ffffffffffc
    0x6b016c3bdcf18941d0d654921475ca71a9db2fb27d1d37796185c2942c0a),
  ([0x2A, 0x86, 0x48, 0xCE, 0x3D, 0x03, 0x01, 0x05], .prime 0x7fffffffffffffffffffffff7fffffffffff8000000000007fffffffffff
    0x7fffffffffffffffffffffff7fffffffffff8000000000007ffffffffffc
    0x617fab6832576cbbfed50d99f0249c3fee58b94ba0038c7ae84c8c832f2c),
  ([0x2A, 0x86, 0x48, 0xCE, 0x3D, 0x03, 0x01, 0x06], .prime 0x7fffffffffffffffffffffff7fffffffffff8000000000007fffffffffff
    0x7fffffffffffffffffffffff7fffffffffff8000000000007ffffffffffc
    0x255705fa2a306654b1f4cb03d6a750a30c250102d4988717d9ba15ab6d3e),
  ([0x2B, 0x81, 0x04, 0x00, 0x04], .binary (BinaryField.ofExponents [113, 9, 0])
    0x3088250ca6e7c7fe649ce85820f7
    0xe8bee4d3e2260744188be0e9c723),
  ([0x2B, 0x81, 0x04, 0x00, 0x05], .binary (BinaryField.ofExponents [113, 9, 0])
    0x689918dbec7e5a0dd6dfc0aa55c7
    0x95e9a9ec9b297bd4bf36e059184f),
  ([0x2B, 0x81, 0x04, 0x00, 0x16], .binary (BinaryField.ofExponents [131, 8, 3, 2, 0])
    0x7a11b09a76b562144418ff3ff8c2570b8
    0x217c05610884b63b9c6c7291678f9d341),
  ([0x2B, 0x81, 0x04, 0x00, 0x17], .binary (BinaryField.ofExponents [131, 8, 3, 2, 0])
    0x3e5a88919d7cafcbf415f07c2176573b2
    0x4b8266a46c55657ac734ce38f018f2192),
  ([0x2B, 0x81, 0x04, 0x00, 0x01], .binary (BinaryField.ofExponents [163, 7, 6, 3, 0])
    0x1
    0x1),
  ([0x2B, 0x81, 0x04, 0x00, 0x02], .binary (BinaryField.ofExponents [163, 7, 6, 3, 0])
    0x7b6882caaefa84f9554ff8428bd88e246d2782ae2
    0x713612dcddcb40aab946bda29ca91f73af958afd9),
  ([0x2B, 0x81, 0x04, 0x00, 0x0F], .binary (BinaryField.ofExponents [163, 7, 6, 3, 0])
    0x1
    0x20a601907b8c953ca1481eb10512f78744a3205fd),
  ([0x2B, 0x81, 0x04, 0x00, 0x18], .binary (BinaryField.ofExponents [193, 15, 0])
    0x17858feb7a98975169e171f77b4087de098ac8a911df7b01
    0xfdfb49bfe6c3a89facadaa7a1e5bbc7cc1c2e5d831478814),
  ([0x2B, 0x81, 0x04, 0x00, 0x19], .binary (BinaryField.ofExponents [193, 15, 0])
    0x163f35a5137c2ce3ea6ed8667190b0bc43ecd69977702709b
    0xc9bb9e8927d4d64c377e2ab2856a5b16e3efb7f61d4316ae),
  ([0x2B, 0x81, 0x04, 0x00, 0x1A], .binary (BinaryField.ofExponents [233, 74, 0])
    0x0
    0x1),
  ([0x2B, 0x81, 0x04, 0x00, 0x1B], .binary (BinaryField.ofExponents [233, 74, 0])
    0x1
    0x66647ede6c332c7f8c0923bb58213b333b20e9ce4281fe115f7d8f90ad),
  ([0x2B, 0x81, 0x04, 0x00, 0x03], .binary (BinaryField.ofExponents [239, 158, 0])
    0x0
    0x1),
  ([0x2B, 0x81, 0x04, 0x00, 0x10], .binary (BinaryField.ofExponents [283, 12, 7, 5, 0])
    0x0
    0x1),
  ([0x2B, 0x81, 0x04, 0x00, 0x11], .binary (BinaryField.ofExponents [283, 12, 7, 5, 0])
    0x1
    0x27b680ac8b8596da5a4af8a19a0303fca97fd7645309fa2a581485af6263e313b79a2f5),
  ([0x2B, 0x81, 0x04, 0x00, 0x24], .binary (BinaryField.ofExponents [409, 87, 0])
    0x0
    0x1),
  ([0x2B, 0x81, 0x04, 0x00, 0x25], .binary (BinaryField.ofExponents [409, 87, 0])
    0x1
    0x21a5c2c8ee9feb5c4b9a753b7b476b7fd6422ef1f3dd674761fa99d6ac27c8a9a197b272822f6cd57a55aa4f50ae317b13545f),
  ([0x2B, 0x81, 0x04, 0x00, 0x26], .binary (BinaryField.ofExponents [571, 10, 5, 2, 0])
    0x0
    0x1),
  ([0x2B, 0x81, 0x04, 0x00, 0x27], .binary (BinaryField.ofExponents [571, 10, 5, 2, 0])
    0x1
    0x2f40e7e2221f295de297117b7f3d62f5c6a97ffcb8ceff1cd6ba8ce4a9a18ad84ffabbd8efa59332be7ad6756a66e294afd185a78ff12aa520e4de739baca0c7ffeff7f2955727a),
  ([0x2A, 0x86, 0x48, 0xCE, 0x3D, 0x03, 0x00, 0x01], .binary (BinaryField.ofExponents [163, 8, 2, 1, 0])
    0x72546b5435234a422e0789675f432c89435de5242
    0xc9517d06d5240d3cff38c74b20b6cd4d6f9dd4d9),
  ([0x2A, 0x86, 0x48, 0xCE, 0x3D, 0x03, 0x00, 0x02], .binary (BinaryField.ofExponents [163, 8, 2, 1, 0])
    0x108b39e77c4b108bed981ed0e890e117c511cf072
    0x667aceb38af4e488c407433ffae4f1c811638df20),
  ([0x2A, 0x86, 0x48, 0xCE, 0x3D, 0x03, 0x00, 0x03], .binary (BinaryField.ofExponents [163, 8, 2, 1, 0])
    0x7a526c63d3e25a256a007699f5447e32ae456b50e
    0x3f7061798eb99e238fd6f1bf95b48feeb4854252b),
  ([0x2A, 0x86, 0x48, 0xCE, 0x3D, 0x03, 0x00, 0x04], .binary (BinaryField.ofExponents [176, 43, 2, 1, 0])
    0xe4e6db2995065c407d9d39b8d0967b96704ba8e9c90b
    0x5dda470abe6414de8ec133ae28e9bbd7fcec0ae0fff2),
  ([0x2A, 0x86, 0x48, 0xCE, 0x3D, 0x03, 0x00, 0x05], .binary (BinaryField.ofExponents [191, 9, 0])
    0x2866537b676752636a68f56554e12640276b649ef7526267
    0x2e45ef571f00786f67b0081b9495a3d95462f5de0aa185ec),
  ([0x2A, 0x86, 0x48, 0xCE, 0x3D, 0x03, 0x00, 0x06], .binary (BinaryField.ofExponents [191, 9, 0])
    0x401028774d7777c7b7666d1366ea432071274f89ff01e718
    0x620048d28bcbd03b6249c99182b7c8cd19700c362c46a01),
  ([0x2A, 0x86, 0x48, 0xCE, 0x3D, 0x03, 0x00, 0x07], .binary (BinaryField.ofExponents [191, 9, 0])
    0x6c01074756099122221056911c77d77e77a777e7e7e77fcb
    0x71fe1af926cf847989efef8db459f66394d90f32ad3f15e8),
  ([0x2A, 0x86, 0x48, 0xCE, 0x3D, 0x03, 0x00, 0x0A], .binary (BinaryField.ofExponents [208, 83, 2, 1, 0])
    0x0
    0xc8619ed45a62e6212e1160349e2bfa844439fafc2a3fd1638f9e),
  ([0x2A, 0x86, 0x48, 0xCE, 0x3D, 0x03, 0x00, 0x0B], .binary (BinaryField.ofExponents [239, 36, 0])
    0x32010857077c5431123a46b808906756f543423e8d27877578125778ac76
    0x790408f2eedaf392b012edefb3392f30f4327c0ca3f31fc383c422aa8c16),
  ([0x2A, 0x86, 0x48, 0xCE, 0x3D, 0x03, 0x00, 0x0C], .binary (BinaryField.ofExponents [239, 36, 0])
    0x4230017757a767fae42398569b746325d45313af0766266479b75654e65f
    0x5037ea654196cff0cd82b2c14a2fcf2e3ff8775285b545722f03eacdb74b),
  ([0x2A, 0x86, 0x48, 0xCE, 0x3D, 0x03, 0x00, 0x0D], .binary (BinaryField.ofExponents [239, 36, 0])
    0x1238774666a67766d6676f778e676b66999176666e687666d8766c66a9f
    0x6a941977ba9f6a435199acfc51067ed587f519c5ecb541b8e44111de1d40),
  ([0x2A, 0x86, 0x48, 0xCE, 0x3D, 0x03, 0x00, 0x10], .binary (BinaryField.ofExponents [272, 56, 3, 1, 0])
    0x91a091f03b5fba4ab2ccf49c4edd220fb028712d42be752b2c40094dbacdb586fb20
    0x7167efc92bb2e3ce7c8aaaff34e12a9c557003d7c73a6faf003f99f6cc8482e540f7),
  ([0x2A, 0x86, 0x48, 0xCE, 0x3D, 0x03, 0x00, 0x11], .binary (BinaryField.ofExponents [304, 11, 2, 1, 0])
    0xfd0d693149a118f651e6dce6802085377e5f882d1b510b44160074c1288078365a0396c8e681
    0xbddb97e555a50a908e43b01c798ea5daa6788f1ea2794efcf57166b8c14039601e55827340be),
  ([0x2A, 0x86, 0x48, 0xCE, 0x3D, 0x03, 0x00, 0x12], .binary (BinaryField.ofExponents [359, 68, 0])
    0x5667676a654b20754f356ea92017d946567c46675556f19556a04616b567d223a5e05656fb549016a96656a557
    0x2472e2d0197c49363f1fe7f5b6db075d52b6947d135d8ca445805d39bc345626089687742b6329e70680231988),
  ([0x2A, 0x86, 0x48, 0xCE, 0x3D, 0x03, 0x00, 0x13], .binary (BinaryField.ofExponents [368, 85, 2, 1, 0])
    0xe0d2ee25095206f5e2a4f9ed229f1f256e79a0e2b455970d8d0d865bd94778c576d62f0ab7519ccd2a1a906ae30d
    0xfc1217d4320a90452c760a58edcd30c8dd069b3c34453837a34ed50cb54917e1c2112d84d164f444f8f74786046a),
  ([0x2A, 0x86, 0x48, 0xCE, 0x3D, 0x03, 0x00, 0x14], .binary (BinaryField.ofExponents [431, 120, 0])
    0x1a827ef00dd6fc0e234caf046c6a5d8a85395b236cc4ad2cf32a0cadbdc9ddf620b0eb9906d0957f6c6feacd615468df104de296cd8f
    0x10d9b4a3d9047d8b154359abfb1b7f5485b04ceb868237ddc9deda982a679a5a919b626d4e50a8dd731b107a9962381fb5d807bf2618),
  ([0x67, 0x2B, 0x01, 0x04, 0x01], .binary (BinaryField.ofExponents [113, 9, 0])
    0x1
    0x1),
  ([0x67, 0x2B, 0x01, 0x04, 0x03], .binary (BinaryField.ofExponents [163, 7, 6, 3, 0])
    0x1
    0x1),
  ([0x67, 0x2B, 0x01, 0x04, 0x04], .binary (BinaryField.ofExponents [113, 9, 0])
    0x3088250ca6e7c7fe649ce85820f7
    0xe8bee4d3e2260744188be0e9c723),
  ([0x67, 0x2B, 0x01, 0x04, 0x05], .binary (BinaryField.ofExponents [163, 8, 2, 1, 0])
    0x72546b5435234a422e0789675f432c89435de5242
    0xc9517d06d5240d3cff38c74b20b6cd4d6f9dd4d9),
  ([0x67, 0x2B, 0x01, 0x04, 0x06], .prime 0xdb7c2abf62e35e668076bead208b
    0xdb7c2abf62e35e668076bead2088
    0x659ef8ba043916eede8911702b22),
  ([0x67, 0x2B, 0x01, 0x04, 0x07], .prime 0xfffffffffffffffffffffffffffffffeffffac73
    0xfffffffffffffffffffffffffffffffeffffac70
    0xb4e134d3fb59eb8bab57274904664d5af50388ba),
  ([0x67, 0x2B, 0x01, 0x04, 0x08], .prime 0xfffffffffffffffffffffffffde7
    0x0
    0x3),
  ([0x67, 0x2B, 0x01, 0x04, 0x09], .prime 0xfffffffffffffffffffffffffffffffffffc808f
    0x0
    0x3),
  ([0x67, 0x2B, 0x01, 0x04, 0x0A], .binary (BinaryField.ofExponents [233, 74, 0])
    0x0
    0x1),
  ([0x67, 0x2B, 0x01, 0x04, 0x0B], .binary (BinaryField.ofExponents [233, 74, 0])
    0x1
    0x66647ede6c332c7f8c0923bb58213b333b20e9ce4281fe115f7d8f90ad),
  ([0x67, 0x2B, 0x01, 0x04, 0x0C], .prime 0xffffffffffffffffffffffffffffffff000000000000000000000001
    0xfffffffffffffffffffffffffffffffefffffffffffffffffffffffe
    0xb4050a850c04b3abf54132565044b0b7d7bfd8ba270b39432355ffb4),
  ([0x2B, 0x24, 0x03, 0x03, 0x02, 0x08, 0x01, 0x01, 0x01], .prime 0xe95e4a5f737059dc60dfc7ad95b3d8139515620f
    0x340e7be2a280eb74e2be61bada745d97e8f7c300
    0x1e589a8595423412134faa2dbdec95c8d8675e58),
  ([0x2B, 0x24, 0x03, 0x03, 0x02, 0x08, 0x01, 0x01, 0x02], .prime 0xe95e4a5f737059dc60dfc7ad95b3d8139515620f
    0xe95e4a5f737059dc60dfc7ad95b3d8139515620c
    0x7a556b6dae535b7b51ed2c4d7daa7a0b5c55f380),
  ([0x2B, 0x24, 0x03, 0x03, 0x02, 0x08, 0x01, 0x01, 0x03], .prime 0xc302f41d932a36cda7a3463093d18db78fce476de1a86297
    0x6a91174076b1e0e19c39c031fe8685c1cae040e5c69a28ef
    0x469a28ef7c28cca3dc721d044f4496bcca7ef4146fbf25c9),
  ([0x2B, 0x24, 0x03, 0x03, 0x02, 0x08, 0x01, 0x01, 0x04], .prime 0xc302f41d932a36cda7a3463093d18db78fce476de1a86297
    0xc302f41d932a36cda7a3463093d18db78fce476de1a86294
    0x13d56ffaec78681e68f9deb43b35bec2fb68542e27897b79),
  ([0x2B, 0x24, 0x03, 0x03, 0x02, 0x08, 0x01, 0x01, 0x05], .prime 0xd7c134aa264366862a18302575d1d787b09f075797da89f57ec8c0ff
    0x68a5e62ca9ce6c1c299803a6c1530b514e182ad8b0042a59cad29f43
    0x2580f63ccfe44138870713b1a92369e33e2135d266dbb372386c400b),
  ([0x2B, 0x24, 0x03, 0x03, 0x02, 0x08, 0x01, 0x01, 0x06], .prime 0xd7c134aa264366862a18302575d1d787b09f075797da89f57ec8c0ff
    0xd7c134aa264366862a18302575d1d787b09f075797da89f57ec8c0fc
    0x4b337d934104cd7bef271bf60ced1ed20da14c08b3bb64f18a60888d),
  ([0x2B, 0x24, 0x03, 0x03, 0x02, 0x08, 0x01, 0x01, 0x07], .prime 0xa9fb57dba1eea9bc3e660a909d838d726e3bf623d52620282013481d1f6e5377
    0x7d5a0975fc2c3057eef67530417affe7fb8055c126dc5c6ce94a4b44f330b5d9
    0x26dc5c6ce94a4b44f330b5d9bbd77cbf958416295cf7e1ce6bccdc18ff8c07b6),
  ([0x2B, 0x24, 0x03, 0x03, 0x02, 0x08, 0x01, 0x01, 0x08], .prime 0xa9fb57dba1eea9bc3e660a909d838d726e3bf623d52620282013481d1f6e5377
    0xa9fb57dba1eea9bc3e660a909d838d726e3bf623d52620282013481d1f6e5374
    0x662c61c430d84ea4fe66a7733d0b76b7bf93ebc4af2f49256ae58101fee92b04),
  ([0x2B, 0x24, 0x03, 0x03, 0x02, 0x08, 0x01, 0x01, 0x09], .prime 0xd35e472036bc4fb7e13c785ed201e065f98fcfa6f6f40def4f92b9ec7893ec28fcd412b1f1b32e27
    0x3ee30b568fbab0f883ccebd46d3f3bb8a2a73513f5eb79da66190eb085ffa9f492f375a97d860eb4
    0x520883949dfdbc42d3ad198640688a6fe13f41349554b49acc31dccd884539816f5eb4ac8fb1f1a6),
  ([0x2B, 0x24, 0x03, 0x03, 0x02, 0x08, 0x01, 0x01, 0x0A], .prime 0xd35e472036bc4fb7e13c785ed201e065f98fcfa6f6f40def4f92b9ec7893ec28fcd412b1f1b32e27
    0xd35e472036bc4fb7e13c785ed201e065f98fcfa6f6f40def4f92b9ec7893ec28fcd412b1f1b32e24
    0xa7f561e038eb1ed560b3d147db782013064c19f27ed27c6780aaf77fb8a547ceb5b4fef422340353),
  ([0x2B, 0x24, 0x03, 0x03, 0x02, 0x08, 0x01, 0x01, 0x0B], .prime 0x8cb91e82a3386d280f5d6f7e50e641df152f7109ed5456b412b1da197fb71123acd3a729901d1a71874700133107ec53
    0x7bc382c63d8c150c3c72080ace05afa0c2bea28e4fb22787139165efba91f90f8aa5814a503ad4eb04a8c7dd22ce2826
    0x4a8c7dd22ce28268b39b55416f0447c2fb77de107dcd2a62e880ea53eeb62d57cb4390295dbc9943ab78696fa504c11),
  ([0x2B, 0x24, 0x03, 0x03, 0x02, 0x08, 0x01, 0x01, 0x0C], .prime 0x8cb91e82a3386d280f5d6f7e50e641df152f7109ed5456b412b1da197fb71123acd3a729901d1a71874700133107ec53
    0x8cb91e82a3386d280f5d6f7e50e641df152f7109ed5456b412b1da197fb71123acd3a729901d1a71874700133107ec50
    0x7f519eada7bda81bd826dba647910f8c4b9346ed8ccdc64e4b1abd11756dce1d2074aa263b88805ced70355a33b471ee),
  ([0x2B, 0x24, 0x03, 0x03, 0x02, 0x08, 0x01, 0x01, 0x0D], .prime 0xaadd9db8dbe9c48b3fd4e6ae33c9fc07cb308db3b3c9d20ed6639cca703308717d4d9b009bc66842aecda12ae6a380e62881ff2f2d82c68528aa6056583a48f3
    0x7830a3318b603b89e2327145ac234cc594cbdd8d3df91610a83441caea9863bc2ded5d5aa8253aa10a2ef1c98b9ac8b57f1117a72bf2c7b9e7c1ac4d77fc94ca
    0x3df91610a83441caea9863bc2ded5d5aa8253aa10a2ef1c98b9ac8b57f1117a72bf2c7b9e7c1ac4d77fc94cadc083e67984050b75ebae5dd2809bd638016f723),
  ([0x2B, 0x24, 0x03, 0x03, 0x02, 0x08, 0x01, 0x01, 0x0E], .prime 0xaadd9db8dbe9c48b3fd4e6ae33c9fc07cb308db3b3c9d20ed6639cca703308717d4d9b009bc66842aecda12ae6a380e62881ff2f2d82c68528aa6056583a48f3
    0xaadd9db8dbe9c48b3fd4e6ae33c9fc07cb308db3b3c9d20ed6639cca703308717d4d9b009bc66842aecda12ae6a380e62881ff2f2d82c68528aa6056583a48f0
    0x7cbbbcf9441cfab76e1890e46884eae321f70c0bcb4981527897504bec3e36a62bcdfa2304976540f6450085f2dae145c22553b465763689180ea2571867423e)]

end TenantAccess.Crypto.CurveEquation

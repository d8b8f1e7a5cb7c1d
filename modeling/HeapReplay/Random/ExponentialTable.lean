namespace HeapReplay.Random.ExponentialTable

/-- The right edges of the layers of the exponential density, as bits of doubles,
    the widest layer first. -/
def edges : Array UInt64 := #[
  0x402164ec94bf5dc3, 0x401ec9d9297ebb83, 0x401bc39e51da71fc, 0x4019e9dc0d487b85, 0x4018939fe6f2ed19,
  0x40178750d6eac62f, 0x4016aa676d4bbf72, 0x4015ee7ae17313d2, 0x40154ad83ccf73f5, 0x4014b9d7cd4751d0,
  0x4014379766e41361, 0x4013c14ec7c8b860, 0x401354ee27ccf75d, 0x4012f0e38a4411f0, 0x401293f5ae49aaa5,
  0x40123d2bb659919f, 0x4011ebbca0c9fa7c, 0x40119f03bcb3c2d6, 0x401156786775442a, 0x401111a8034392a6,
  0x4010d031785d48a0, 0x401091c1cdcba54e, 0x401056118bf58eef, 0x40101ce2b362ec2e, 0x400fcbfe43f6c6e6,
  0x400f626e9791f7a7, 0x400efcc26750ea4a, 0x400e9aaf2af383c1, 0x400e3bf26e190960, 0x400de050af4ef19f,
  0x400d87946fec3bec, 0x400d318d6b2738c5, 0x400cde0fecf2a97f, 0x400c8cf442c8c8f3, 0x400c3e1641c2e0a6,
  0x400bf154de4bef76, 0x400ba691d276da5d, 0x400b5db15091ea0e, 0x400b1699c003b608, 0x400ad13382d845c3,
  0x400a8d68c2ad86e8, 0x400a4b2543e84c3a, 0x400a0a563e49f177, 0x4009caea3a24d9e9, 0x40098cd0f18d1ad7,
  0x40094ffb34fc2a0d, 0x4009145ad2f37543, 0x4008d9e2823b3695, 0x4008a085ce695baa, 0x4008683906687341,
  0x400830f12cc0bec3, 0x4007faa3e96e1412, 0x4007c5477d1476d3, 0x400790d2b56b71f9, 0x40075d3ce2bd71c3,
  0x40072a7dce5cd218, 0x4006f88db1f42507, 0x4006c7652f9a7b1e, 0x400696fd4a9748ee, 0x4006674f60c3f431,
  0x40063855247b2e93, 0x40060a0897081877, 0x4005dc640388bd9c, 0x4005af61fa38e106, 0x400582fd4c1b4460,
  0x4005573106f8a759, 0x40052bf871acaab1, 0x4005014f08b99508, 0x4004d7307b1cb127, 0x4004ad98a75da14c,
  0x4004848398d39432, 0x40045bed851bc92c, 0x400433d2c9bd42f8, 0x40040c2fe9f5eead, 0x4003e5018caddecf,
  0x4003be447a8d8b83, 0x400397f59c345143, 0x40037211f88ca856, 0x40034c96b33bc965, 0x400327810b2aa7cf,
  0x400302ce59265964, 0x4002de7c0e962d70, 0x4002ba87b445db50, 0x400296eee942532b, 0x400273af61c7daa6,
  0x400250c6e6403bba, 0x40022e33524fe550, 0x40020bf293f0f4a2, 0x4001ea02aa9b3371, 0x4001c861a6782a5b,
  0x4001a70da7a27821, 0x40018604dd6fae9e, 0x4001654585c404c1, 0x400144cdec6f3a2c, 0x4001249c6a92154b,
  0x400104af660befcf, 0x4000e50550efcfb8, 0x4000c59ca9009470, 0x4000a673f733c81a, 0x40008789cf3aad0f,
  0x400068dccf1126db, 0x40004a6b9e9224a3, 0x40002c34ef11391b, 0x40000e377af911d5, 0x3fffe0e40add09d9,
  0x3fffa5c6b3efe1e6, 0x3fff6b1498515ed1, 0x3fff30cb6ea0bc81, 0x3ffef6e8fc5b9169, 0x3ffebd6b154a767a,
  0x3ffe844f9af42381, 0x3ffe4b947c16a454, 0x3ffe1337b426509d, 0x3ffddb374ad23581, 0x3ffda391538da50c,
  0x3ffd6c43ed1ea401, 0x3ffd354d4130f2b0, 0x3ffcfeab83ed7182, 0x3ffcc85cf395a56e, 0x3ffc925fd82323fe,
  0x3ffc5cb282eab1a7, 0x3ffc27534e42e02f, 0x3ffbf2409d2dfd87, 0x3ffbbd78db072612, 0x3ffb88fa7b324fb7,
  0x3ffb54c3f8cf2543, 0x3ffb20d3d66e8bb6, 0x3ffaed289dcaad00, 0x3ffab9c0df81657b, 0x3ffa869b32d0f310,
  0x3ffa53b63556c691, 0x3ffa21108ad0592e, 0x3ff9eea8dcdde952, 0x3ff9bc7ddac7035e, 0x3ff98a8e3940bbf5,
  0x3ff958d8b235828b, 0x3ff9275c048e73e2, 0x3ff8f616f3fe1514, 0x3ff8c50848cc6095, 0x3ff8942ecfa40f55,
  0x3ff86389596108e8, 0x3ff83316badfe62b, 0x3ff802d5ccce7278, 0x3ff7d2c56b7d17f9, 0x3ff7a2e476b1240c,
  0x3ff77331d177d131, 0x3ff743ac61fa041d, 0x3ff714531150a9fc, 0x3ff6e524cb59a609, 0x3ff6b6207e8d3ce1,
  0x3ff687451bd3ebf0, 0x3ff65891965c9b8e, 0x3ff62a04e3731a2f, 0x3ff5fb9dfa56cf28, 0x3ff5cd5bd4119336,
  0x3ff59f3d6b4e9cfa, 0x3ff57141bc316f27, 0x3ff54367c42cb5f9, 0x3ff515ae81d900fc, 0x3ff4e814f4cb45eb,
  0x3ff4ba9a1d6b18a5, 0x3ff48d3cfcc883c4, 0x3ff45ffc94716ca7, 0x3ff432d7e6466cd0, 0x3ff405cdf44f09c4,
  0x3ff3d8ddc08d336e, 0x3ff3ac064ccfeffc, 0x3ff37f469a851aef, 0x3ff3529daa8a1ba0, 0x3ff3260a7cfb7611,
  0x3ff2f98c11031720, 0x3ff2cd2164a53b5d, 0x3ff2a0c9748bcda9, 0x3ff274833bd0189f, 0x3ff2484db3c2a329,
  0x3ff21c27d3b10e04, 0x3ff1f01090a9c4e0, 0x3ff1c406dd3d5281, 0x3ff19809a93d2394, 0x3ff16c17e1777ff9,
  0x3ff140306f707dbc, 0x3ff114523917ac13, 0x3ff0e87c207a2f64, 0x3ff0bcad03710135, 0x3ff090e3bb4b0070,
  0x3ff0651f1c7276f5, 0x3ff0395df60db15f, 0x3ff00d9f119a3cd6, 0x3fefc3c26504a99c, 0x3fef6c462b57feb0,
  0x3fef14c6e2029499, 0x3feebd41e5e21b5d, 0x3fee65b483cf103e, 0x3fee0e1bf77c31f8, 0x3fedb6756a429050,
  0x3fed5ebdf1d86b87, 0x3fed06f28ef0e6f4, 0x3fecaf102bc25ad4, 0x3fec57139a70d298, 0x3febfef99359fe92,
  0x3feba6beb33f8f83, 0x3feb4e5f794c9795, 0x3feaf5d844f224c2, 0x3fea9d255396d25b, 0x3fea4442be148844,
  0x3fe9eb2c75ff03b8, 0x3fe991de42ad1332, 0x3fe93853bdfda23d, 0x3fe8de8850d0c523, 0x3fe884772f2be1e5,
  0x3fe82a1b53fed593, 0x3fe7cf6f7c7e816c, 0x3fe7746e2307796d, 0x3fe71911797990b5, 0x3fe6bd5362faa93e,
  0x3fe6612d6d0c68da, 0x3fe60498c7dd2ec8, 0x3fe5a78e3db8bef6, 0x3fe54a0629786f47, 0x3fe4ebf86bcd0b8d,
  0x3fe48d5c5f35e70c, 0x3fe42e28ca706742, 0x3fe3ce53d121629a, 0x3fe36dd2e26d81fb, 0x3fe30c9aa526da45,
  0x3fe2aa9ee1236804, 0x3fe247d26538ff28, 0x3fe1e426e93e49e1, 0x3fe17f8ceb4bdf9b, 0x3fe119f38749f5aa,
  0x3fe0b348479b80f7, 0x3fe04b76ed6a7553, 0x3fdfc4d25d683201, 0x3fdef00ccf5f4fa3, 0x3fde186678f17352,
  0x3fdd3da24df17c2d, 0x3fdc5f7bd78c3f7f, 0x3fdb7da5dddda3b9, 0x3fda97c8be5d51f8, 0x3fd9ad80552237c7,
  0x3fd8be5954d36063, 0x3fd7c9cdda17d00e, 0x3fd6cf40f0a72bb2, 0x3fd5cdf89d024ab7, 0x3fd4c515c60bfe16,
  0x3fd3b388fe3d6ebd, 0x3fd2980290da2625, 0x3fd170db24d6f662, 0x3fd03bf049c65c2d, 0x3fcdecd8b76dbd7b,
  0x3fcb38d1ef79b7ae, 0x3fc85090fbc27a5e, 0x3fc522e6e54a2a4e, 0x3fc19335a95b8d8e, 0x3fbad6b2495b4cc6,
  0x3fb0589d8b5d408f, 0x0000000000000000]

/-- The exponential density at the edges, as bits of doubles. -/
def heights : Array UInt64 := #[
  0x3f25e5d3f59d053b, 0x3f3dc31c329f0b4f, 0x3f4fb20af78dfcb4, 0x3f592bb5540c3e28, 0x3f61946ba8e1a326,
  0x3f66d888f3a1feff, 0x3f6c58b381cd4b11, 0x3f71073d69574045, 0x3f73fa97cee32301, 0x3f77049f37ec3627,
  0x3f7a23e9d497483b, 0x3f7d5751fa745dcd, 0x3f804ef2295fd7fb, 0x3f81fb69edb37672, 0x3f83b0b8c1516f63,
  0x3f856e930be416cc, 0x3f8734b6e6aa74f7, 0x3f8902ea688fa7bb, 0x3f8ad8fa5542c92d, 0x3f8cb6b9146e275a,
  0x3f8e9bfdde89c7ce, 0x3f904452091e02ee, 0x3f913e4554725f5d, 0x3f923bc9e1b93a30, 0x3f933cd225315d82,
  0x3f944151ce87f0bd, 0x3f95493da6ab0250, 0x3f96548b72a24077, 0x3f976331da87fc96, 0x3f98752853ec9968,
  0x3f998a670f132a49, 0x3f9aa2e6e6924e9c, 0x3f9bbea150fa5871, 0x3f9cdd9054331b0f, 0x3f9dffae7a51746d,
  0x3f9f24f6c7af9895, 0x3fa026b2590dfaf0, 0x3fa0bc7a0c7cd654, 0x3fa153d09f19b3a5, 0x3fa1ecb45ff312d7,
  0x3fa28723c956c00f, 0x3fa3231d7e3f14b1, 0x3fa3c0a047ff1901, 0x3fa45fab14266b1b, 0x3fa5003cf296c5ee,
  0x3fa5a25513c5d2cd, 0x3fa645f2c726a043, 0x3fa6eb1579b6af53, 0x3fa791bcb4ab08a0, 0x3fa839e81c3a396d,
  0x3fa8e3976e80776e, 0x3fa98eca827b7c4d, 0x3faa3b81471bf138, 0x3faae9bbc26a8083, 0x3fab997a10bed984,
  0x3fac4abc640721e8, 0x3facfd83031e7949, 0x3fadb1ce49315810, 0x3fae679ea52eb2e7, 0x3faf1ef49944e838,
  0x3fafd7d0ba69967c, 0x3fb04919d7f5c81a, 0x3fb0a70f19871b3f, 0x3fb105c88756ca53, 0x3fb165468f755395,
  0x3fb1c589a86fa342, 0x3fb22692512c9d8d, 0x3fb2886110ce0571, 0x3fb2eaf676948dd1, 0x3fb34e5319c6e718,
  0x3fb3b277999b9f9f, 0x3fb417649d25b10f, 0x3fb47d1ad343985c, 0x3fb4e39af290d929, 0x3fb54ae5b959d037,
  0x3fb5b2fbed91bb40, 0x3fb61bde5ccadef8, 0x3fb6858ddc30b621, 0x3fb6f00b488416b8, 0x3fb75b5786193c21,
  0x3fb7c77380d7a6f5, 0x3fb834602c3bc4bb, 0x3fb8a21e835a533d, 0x3fb910af88e574ba, 0x3fb9801447336b70,
  0x3fb9f04dd046f428, 0x3fba615d3dd938b6, 0x3fbad343b1655463, 0x3fbb460254356546, 0x3fbbb99a5771268c,
  0x3fbc2e0cf42e10ad, 0x3fbca35b6b80fd56, 0x3fbd198706914dd5, 0x3fbd909116ad9396, 0x3fbe087af561baf8,
  0x3fbe8146048eb9c9, 0x3fbefaf3ae83c339, 0x3fbf758566190412, 0x3fbff0fca6cbea8b, 0x3fc036ad7a6e7f04,
  0x3fc07550eeb7a5bf, 0x3fc0b4697b54b62f, 0x3fc0f3f7efec171f, 0x3fc133fd20c9712e, 0x3fc17479e6f0ae77,
  0x3fc1b56f2031d665, 0x3fc1f6ddaf3dca63, 0x3fc238c67bbbe876, 0x3fc27b2a7260993e, 0x3fc2be0a8504cf32,
  0x3fc30167aabe7d6c, 0x3fc34542dffa0cad, 0x3fc3899d2694d5c7, 0x3fc3ce7785f8a903, 0x3fc413d30b386a97,
  0x3fc459b0c92dccc3, 0x3fc4a011d8983093, 0x3fc4e6f7583cb6f7, 0x3fc52e626d078c46, 0x3fc57654422e78f1,
  0x3fc5bece0954c2b2, 0x3fc607d0fab06a2e, 0x3fc6515e5530d1a9, 0x3fc69b775ea6da26, 0x3fc6e61d63ee84e9,
  0x3fc73151b91a2838, 0x3fc77d15b99f46fd, 0x3fc7c96ac8851bad, 0x3fc816525094e7e4, 0x3fc863cdc48c1af8,
  0x3fc8b1de9f5062d3, 0x3fc900866425bb78, 0x3fc94fc69ee6929f, 0x3fc99fa0e43e1621, 0x3fc9f016d1e4c510,
  0x3fca412a0edf5cba, 0x3fca92dc4bc03c47, 0x3fcae52f42eb5b0a, 0x3fcb3824b8dcef3c, 0x3fcb8bbe7c72e4a3,
  0x3fcbdffe67394433, 0x3fcc34e65db9afec, 0x3fcc8a784fce17ff, 0x3fcce0b638f6d09b, 0x3fcd37a220b431fa,
  0x3fcd8f3e1ae3eeb6, 0x3fcde78c48224f37, 0x3fce408ed62f83a4, 0x3fce9a48005940ef, 0x3fcef4ba0fe8e098,
  0x3fcf4fe75c963e7b, 0x3fcfabd24cff9351, 0x3fd0043eab934769, 0x3fd032f580797c2b, 0x3fd0620ef05d90d1,
  0x3fd0918c4ee93e12, 0x3fd0c16ef88f5332, 0x3fd0f1b852d9a66b, 0x3fd12269ccba9fb9, 0x3fd15384dee291ee,
  0x3fd1850b0c191981, 0x3fd1b6fde19abc59, 0x3fd1e95ef77b09da, 0x3fd21c2ff10b7eff, 0x3fd24f727d4776fd,
  0x3fd2832857457628, 0x3fd2b75346ae2263, 0x3fd2ebf520394271, 0x3fd3210fc6312436, 0x3fd356a528fcd0dd,
  0x3fd38cb747b17def, 0x3fd3c34830abb285, 0x3fd3fa5a0230a14f, 0x3fd431eeeb1841e2, 0x3fd46a092b80beef,
  0x3fd4a2ab158bdad4, 0x3fd4dbd70e26f920, 0x3fd5158f8dde89f7, 0x3fd54fd721bda3e9, 0x3fd58ab06c3aa9f1,
  0x3fd5c61e2631ee6f, 0x3fd602231fef5879, 0x3fd63ec2424827e7, 0x3fd67bfe8fc60da1, 0x3fd6b9db25e4e99f,
  0x3fd6f85b3e649ea1, 0x3fd7378230b08dee, 0x3fd77753735e72e7, 0x3fd7b7d29dc68022, 0x3fd7f90369b6ce5d,
  0x3fd83ae9b544613d, 0x3fd87d8984bc3f90, 0x3fd8c0e704b75d3e, 0x3fd905068c545d09, 0x3fd949ec9f9a8115,
  0x3fd98f9df2097bad, 0x3fd9d61f695a3797, 0x3fda1d76207521f9, 0x3fda65a76aa30145, 0x3fdaaeb8d6fdf6eb,
  0x3fdaf8b03428ef65, 0x3fdb439394548075, 0x3fdb8f6951990b8e, 0x3fdbdc3812aeeebb, 0x3fdc2a06d00ea588,
  0x3fdc78dcd983fb66, 0x3fdcc8c1dc40e098, 0x3fdd19bde97e1a11, 0x3fdd6bd97db9ed80, 0x3fddbf1d88a72112,
  0x3fde139375e13802, 0x3fde6945367dd357, 0x3fdec03d4b969d96, 0x3fdf1886d1eb4253, 0x3fdf722d8ebfc600,
  0x3fdfcd3dfe21457c, 0x3fe014e2b160f327, 0x3fe043e8ebd2654b, 0x3fe073b931ee3b80, 0x3fe0a45b8854d02d,
  0x3fe0d5d8812b1e2e, 0x3fe108394a1cc390, 0x3fe13b87bc33169f, 0x3fe16fce6dce6ff2, 0x3fe1a518c71e3b29,
  0x3fe1db7319877b8d, 0x3fe212eaba813ecc, 0x3fe24b8e228c50a6, 0x3fe2856d111132c0, 0x3fe2c098b61f4f27,
  0x3fe2fd23e345da61, 0x3fe33b23450e631b, 0x3fe37aada708dddc, 0x3fe3bbdc44e1d116, 0x3fe3fecb2bb18b82,
  0x3fe44399afa8e128, 0x3fe48a6afb8ee06c, 0x3fe4d366c151f8b2, 0x3fe51eba1578899e, 0x3fe56c9882da8777,
  0x3fe5bd3d694cac79, 0x3fe610edc1a7af6a, 0x3fe667fa6d4f5c0a, 0x3fe6c2c3498418ca, 0x3fe721bb5ba94b67,
  0x3fe7856e9b09d483, 0x3fe7ee8a2d24312b, 0x3fe85de87806c5bd, 0x3fe8d4a376d3d235, 0x3fe95431c455aa3f,
  0x3fe9de9715556da1, 0x3fea76baa562faee, 0x3feb210f0ee67f32, 0x3febe5007beb7b31, 0x3fecd0a65081fffc,
  0x3fee0545e5881147, 0x3ff0000000000000]

end HeapReplay.Random.ExponentialTable

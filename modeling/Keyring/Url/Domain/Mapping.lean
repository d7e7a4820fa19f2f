import Keyring.Text.Table

/-!
What becomes of a character in a domain name (UTS #46, without the transitional rules).

* `Domain.Effect`, `Domain.effect`: a character is kept, dropped, replaced or refused.
* `Domain.map?`: a text after that.
-/

namespace Keyring.Domain

/-- The effects on all characters: `v` keeps, `i` drops and `x` refuses. `s` replaces each character
by the numbers, and `m` does so with a single number that grows by one with each character. `p`
replaces every other character, from the first on, by the one after it. -/
def effects : List Table.Stretch := Table.stretches [
  "41v 1am61 25v 20x 1m20 7v 1m20,308 1v 1m61 2v 1i 1v 1m20,304 2v 2m32 1m20,301 1m3bc 2v 1m20,327",
  "1m31 1m6f 1v 1m31,2044,34 1m31,2044,32 1m33,2044,34 1v 17me0 1v 7mf8 21v 30p 1m69,307 1v",
  "1m69,6a 1m69,6a 4p 1v 6p 1m6c,b7 1m6c,b7 8p 1m2bc,6e 2ep 1mff 6p 1m73 1v 1m253 4p 1m254 1m188",
  "1v 2m256 1m18c 2v 1m1dd 1m259 1m25b 1m192 1v 1m260 1m263 1v 1m269 1m268 1m199 3v 1m26f 1m272 1v",
  "1m275 6p 1m280 1m1a8 1v 1m283 2v 1m1ad 1v 1m288 1m1b0 1v 2m28a 4p 1m292 1m1b9 3v 1m1bd 7v",
  "1m64,17e 1m64,17e 1m64,17e 1m6c,6a 1m6c,6a 1m6c,6a 1m6e,6a 1m6e,6a 1m6e,6a 10p 1v 12p 1v",
  "1m64,7a 1m64,7a 1m64,7a 1m1f5 1v 1m195 1m1bf 28p 1m19e 1v 12p 6v 1m2c65 1m23c 1v 1m19a 1m2c66",
  "2v 1m242 1v 1m180 1m289 1m28c ap 60v 1m68 1m266 1m6a 1m72 1m279 1m27b 1m281 1m77 1m79 1fv",
  "1m20,306 1m20,307 1m20,30a 1m20,328 1m20,303 1m20,30b 2v 1m263 1m6c 1m73 1m78 1m295 5bv 2m300",
  "1v 1m313 1m308,301 1m3b9 9v 1i 20v 4p 1m2b9 1v 1m377 1v 2x 1m20,3b9 3v 1m3b 1m3f3 4x 1m20,301",
  "1m20,308,301 1m3ac 1mb7 3m3ad 1x 1m3cc 1x 2m3cd 1v 11m3b1 1x 9m3c3 23v 1m3d7 1m3b2 1m3b8 1m3c5",
  "1m3cd 1m3cb 1m3c6 1m3c0 1v 18p 1m3ba 1m3c1 1m3c3 1v 1m3b8 1m3b5 1v 1m3f8 1v 1m3c3 1m3fb 2v",
  "3m37b 10m450 20m430 30v 22p 8v 36p 1m4cf ep 1v 60p 1x 26m561 1x 1m567 2ev 1m565,582 3v 2x 3v 1x",
  "38v 7x 1bv 4x 6v 11x 16v 1x 58v 1m627,674 1m648,674 1m6c7,674 1m64a,674 64v 1x 30v 2x 3bv 2x",
  "65v ex 3bv 2x 31v 2x fv 1x 1cv 2x 1v 1x bv 5x 20v 7x 4bv 1x 75v 1m915,93c 1m916,93c 1m917,93c",
  "1m91c,93c 1m921,93c 1m922,93c 1m92b,93c 1m92f,93c 24v 1x 8v 2x 2v 2x 16v 1x 7v 1x 1v 3x 4v 2x",
  "9v 2x 2v 2x 4v 8x 1v 4x 1m9a1,9bc 1m9a2,9bc 1x 1m9af,9bc 4v 2x 19v 2x 3v 1x 6v 4x 2v 2x 16v 1x",
  "7v 1x 1v 1ma32,a3c 1x 1v 1ma38,a3c 1x 2v 2x 1v 1x 5v 4x 2v 2x 3v 3x 1v 7x 1ma16,a3c 1ma17,a3c",
  "1ma1c,a3c 1v 1x 1ma2b,a3c 7x 11v ax 3v 1x 9v 1x 3v 1x 16v 1x 7v 1x 2v 1x 5v 2x av 1x 3v 1x 3v",
  "2x 1v fx 4v 2x cv 7x 7v 1x 3v 1x 8v 2x 2v 2x 16v 1x 7v 1x 2v 1x 5v 2x 9v 2x 2v 2x 3v 5x 5v 4x",
  "1mb21,b3c 1mb22,b3c 1x 5v 2x 12v ax 2v 1x 6v 3x 3v 1x 4v 3x 2v 1x 1v 1x 2v 3x 2v 3x 3v 3x cv 4x",
  "5v 3x 3v 1x 4v 2x 1v 6x 1v ex 15v 5x dv 1x 3v 1x 17v 1x 10v 2x 9v 1x 3v 1x 4v 7x 2v 1x 3v 1x 2v",
  "2x 4v 2x av 7x 16v 1x 3v 1x 17v 1x av 1x 5v 2x 9v 1x 3v 1x 4v 7x 2v 5x 3v 1x 4v 2x av 1x 3v cx",
  "dv 1x 3v 1x 33v 1x 3v 1x 6v 4x 10v 2x 1av 1x 3v 1x 12v 3x 18v 1x 9v 1x 1v 2x 7v 3x 1v 4x 6v 1x",
  "1v 1x 8v 6x av 2x 3v cx 32v 1me4d,e32 7v 4x 1dv 25x 2v 1x 1v 1x 5v 1x 18v 1x 1v 1x cv 1mecd,eb2",
  "av 2x 5v 1x 1v 1x 7v 1x av 2x 1meab,e99 1meab,ea1 2v 20x cv 1mf0b 36v 1mf42,fb7 4v 1x 4v",
  "1mf4c,fb7 4v 1mf51,fb7 4v 1mf56,fb7 4v 1mf5b,fb7 cv 1mf40,fb5 3v 4x 2v 1mf71,f72 1v 1mf71,f74",
  "1mfb2,f80 1mfb2,f71,f80 1mfb3,f80 1mfb3,f71,f80 7v 1mf71,f80 11v 1mf92,fb7 4v 1x 4v 1mf9c,fb7",
  "4v 1mfa1,fb7 4v 1mfa6,fb7 4v 1mfab,fb7 cv 1mf90,fb5 3v 1x fv 1x dv 25x a0v 26m2d00 1x 1m2d27 5x",
  "1m2d2d 2x 2cv 1m10dc 62v 2i e8v 1x 4v 2x 7v 1x 1v 1x 4v 2x 29v 1x 4v 2x 21v 1x 4v 2x 7v 1x 1v",
  "1x 4v 2x fv 1x 39v 1x 4v 2x 43v 2x 20v 3x 1av 6x 56v 2x 6m13f0 2x 280v 1x 1cv 3x 59v 7x 16v 9x",
  "18v 9x 14v cx dv 1x 3v 1x 2v cx 34v 2i 28v 2x av 6x av 6x bv 5i av 6x 59v 7x 2bv 5x 46v ax 1fv",
  "1x cv 4x cv 4x 1v 3x 2av 2x 5v bx 2cv 4x 1av 6x bv 3x 3ev 2x 41v 1x 1dv 2x bv 6x av 6x ev 2x",
  "2fv 1x cv 14x 4dv 1x a6v 8x 3cv 3x fv 3x 33v 1m432 1m434 1m43e 2m441 1m442 1m44a 1m463 1ma64b",
  "1m1c8a 1v 5x 2bm10d0 2x 3m10fd 8v 8x 2bv 5x 2cv 1m61 1me6 1m62 1v 2m64 1m1dd 8m67 1v 1m6f 1m223",
  "1m70 1m72 2m74 1m77 1m61 2m250 1m1d02 1m62 2m64 1m259 2m25b 1m67 1v 1m6b 1m6d 1m14b 1m6f 1m254",
  "2m1d16 1m70 2m74 1m1d1d 1m26f 1m76 1m1d25 3m3b2 2m3c6 1m69 1m72 2m75 2m3b2 1m3c1 2m3c6 dv 1m43d",
  "22v 1m252 1m63 1m255 1mf0 1m25c 1m66 1m25f 1m261 1m265 3m268 1m1d7b 1m29d 1m26d 1m1d85 1m29f",
  "1m271 1m270 4m272 1m278 2m282 1m1ab 2m289 1m1d1c 2m28b 1m7a 3m290 1m3b8 40v 96p 4v 1m61,2be",
  "1m1e61 2v 1mdf 1v 60p 8v 8m1f00 6v 2x 6m1f10 2x 8v 8m1f20 8v 8m1f30 6v 2x 6m1f40 2x 8v 1x",
  "1m1f51 1x 1m1f53 1x 1m1f55 1x 1m1f57 8v 8m1f60 1v 1m3ac 1v 1m3ad 1v 1m3ae 1v 1m3af 1v 1m3cc 1v",
  "1m3cd 1v 1m3ce 2x 1m1f00,3b9 1m1f01,3b9 1m1f02,3b9 1m1f03,3b9 1m1f04,3b9 1m1f05,3b9 1m1f06,3b9",
  "1m1f07,3b9 1m1f00,3b9 1m1f01,3b9 1m1f02,3b9 1m1f03,3b9 1m1f04,3b9 1m1f05,3b9 1m1f06,3b9",
  "1m1f07,3b9 1m1f20,3b9 1m1f21,3b9 1m1f22,3b9 1m1f23,3b9 1m1f24,3b9 1m1f25,3b9 1m1f26,3b9",
  "1m1f27,3b9 1m1f20,3b9 1m1f21,3b9 1m1f22,3b9 1m1f23,3b9 1m1f24,3b9 1m1f25,3b9 1m1f26,3b9",
  "1m1f27,3b9 1m1f60,3b9 1m1f61,3b9 1m1f62,3b9 1m1f63,3b9 1m1f64,3b9 1m1f65,3b9 1m1f66,3b9",
  "1m1f67,3b9 1m1f60,3b9 1m1f61,3b9 1m1f62,3b9 1m1f63,3b9 1m1f64,3b9 1m1f65,3b9 1m1f66,3b9",
  "1m1f67,3b9 2v 1m1f70,3b9 1m3b1,3b9 1m3ac,3b9 1x 1v 1m1fb6,3b9 2m1fb0 1m1f70 1m3ac 1m3b1,3b9",
  "1m20,313 1m3b9 1m20,313 1m20,342 1m20,308,342 1m1f74,3b9 1m3b7,3b9 1m3ae,3b9 1x 1v 1m1fc6,3b9",
  "1m1f72 1m3ad 1m1f74 1m3ae 1m3b7,3b9 1m20,313,300 1m20,313,301 1m20,313,342 3v 1m390 2x 2v",
  "2m1fd0 1m1f76 1m3af 1x 1m20,314,300 1m20,314,301 1m20,314,342 3v 1m3b0 4v 2m1fe0 1m1f7a 1m3cd",
  "1m1fe5 1m20,308,300 1m20,308,301 1m60 2x 1m1f7c,3b9 1m3c9,3b9 1m3ce,3b9 1x 1v 1m1ff6,3b9 1m1f78",
  "1m3cc 1m1f7c 1m3ce 1m3c9,3b9 1m20,301 1m20,314 1x bs20 1i 2v 2x 1v 1m2010 5v 1m20,333 cv 3x 1v",
  "7x 1m20 3v 1m2032,2032 1m2032,2032,2032 1v 1m2035,2035 1m2035,2035,2035 4v 1m21,21 1v 1m20,305",
  "8v 1m3f,3f 1m3f,21 1m21,3f dv 1m2032,2032,2032,2032 7v 1m20 5i 5x 6i 1m30 1m69 2x 6m34 1m2b",
  "1m2212 1m3d 2m28 1m6e am30 1m2b 1m2212 1m3d 2m28 1v 1m61 1m65 1m6f 1m78 1m259 1m68 4m6b 1m70",
  "2m73 3x 8v 1m72,73 1bv cx 21v fx 1m61,2f,63 1m61,2f,73 1m63 1mb0,63 1v 1m63,2f,6f 1m63,2f,75",
  "1m25b 1v 1mb0,66 2m67 3s68 1m127 2s69 2s6c 1v 1m6e 1m6e,6f 2v 3m70 2s72 2v 1m73,6d 1m74,65,6c",
  "1m74,6d 1v 1m7a 1v 1m3c9 1v 1m7a 1v 1m6b 1me5 2m62 1v 2s65 1m66 1m214e 1m6d 1m6f 4m5d0 1m69 1v",
  "1m66,61,78 1m3c0 2s3b3 1m3c0 1m2211 4v 2s64 1m65 2m69 6v 1m31,2044,37 1m31,2044,39",
  "1m31,2044,31,30 1m31,2044,33 1m32,2044,33 1m31,2044,35 1m32,2044,35 1m33,2044,35 1m34,2044,35",
  "1m31,2044,36 1m35,2044,36 1m31,2044,38 1m33,2044,38 1m35,2044,38 1m37,2044,38 1m31,2044 1m69",
  "1m69,69 1m69,69,69 1m69,76 1m76 1m76,69 1m76,69,69 1m76,69,69,69 1m69,78 1m78 1m78,69",
  "1m78,69,69 1m6c 2m63 1m6d 1m69 1m69,69 1m69,69,69 1m69,76 1m76 1m76,69 1m76,69,69 1m76,69,69,69",
  "1m69,78 1m78 1m78,69 1m78,69,69 1m6c 2m63 1m6d 3v 1m2184 5v 1m30,2044,33 2v 4x 9cv 1m222b,222b",
  "1m222b,222b,222b 1v 1m222e,222e 1m222e,222e,222e f8v 2m3008 ffv 16x bv 15x 9m31 1m31,30 1m31,31",
  "1m31,32 1m31,33 1m31,34 1m31,35 1m31,36 1m31,37 1m31,38 1m31,39 1m32,30 1m28,31,29 1m28,32,29",
  "1m28,33,29 1m28,34,29 1m28,35,29 1m28,36,29 1m28,37,29 1m28,38,29 1m28,39,29 1m28,31,30,29",
  "1m28,31,31,29 1m28,31,32,29 1m28,31,33,29 1m28,31,34,29 1m28,31,35,29 1m28,31,36,29",
  "1m28,31,37,29 1m28,31,38,29 1m28,31,39,29 1m28,32,30,29 14x 1m28,61,29 1m28,62,29 1m28,63,29",
  "1m28,64,29 1m28,65,29 1m28,66,29 1m28,67,29 1m28,68,29 1m28,69,29 1m28,6a,29 1m28,6b,29",
  "1m28,6c,29 1m28,6d,29 1m28,6e,29 1m28,6f,29 1m28,70,29 1m28,71,29 1m28,72,29 1m28,73,29",
  "1m28,74,29 1m28,75,29 1m28,76,29 1m28,77,29 1m28,78,29 1m28,79,29 1m28,7a,29 1am61 1am61 1m30",
  "521v 1m222b,222b,222b,222b 67v 1m3a,3a,3d 1m3d,3d 1m3d,3d,3d 65v 1m2add,338 97v 2x 8av 30m2c30",
  "30v 1m2c61 1v 1m26b 1m1d7d 1m27d 2v 6p 1m251 1m271 1m250 1m252 1v 1m2c73 2v 1m2c76 6v 1m6a 1m76",
  "2m23f 64p 7v 4p 3v 1m2cf3 1v 5x 2dv 1x 1v 5x 1v 2x 38v 7x 1m2d61 1v ex 18v 9x 7v 1x 7v 1x 7v 1x",
  "7v 1x 7v 1x 7v 1x 7v 1x 7v 1x 7ev 22x 1av 1x 4v 1m6bcd 53v 1m9f9f cx 1m4e00 1m4e28 1m4e36",
  "1m4e3f 1m4e59 1m4e85 1m4e8c 1m4ea0 1m4eba 1m513f 1m5165 1m516b 1m5182 1m5196 1m51ab 1m51e0",
  "1m51f5 1m5200 1m529b 1m52f9 1m5315 1m531a 1m5338 1m5341 1m535c 1m5369 1m5382 1m53b6 1m53c8",
  "1m53e3 1m56d7 1m571f 1m58eb 1m5902 1m590a 1m5915 1m5927 1m5973 1m5b50 1m5b80 1m5bf8 1m5c0f",
  "1m5c22 1m5c38 1m5c6e 1m5c71 1m5ddb 1m5de5 1m5df1 1m5dfe 1m5e72 1m5e7a 1m5e7f 1m5ef4 1m5efe",
  "1m5f0b 1m5f13 1m5f50 1m5f61 1m5f73 1m5fc3 1m6208 1m6236 1m624b 1m652f 1m6534 1m6587 1m6597",
  "1m65a4 1m65b9 1m65e0 1m65e5 1m66f0 1m6708 1m6728 1m6b20 1m6b62 1m6b79 1m6bb3 1m6bcb 1m6bd4",
  "1m6bdb 1m6c0f 1m6c14 1m6c34 1m706b 1m722a 1m7236 1m723b 1m723f 1m7247 1m7259 1m725b 1m72ac",
  "1m7384 1m7389 1m74dc 1m74e6 1m7518 1m751f 1m7528 1m7530 1m758b 1m7592 1m7676 1m767d 1m76ae",
  "1m76bf 1m76ee 1m77db 1m77e2 1m77f3 1m793a 1m79b8 1m79be 1m7a74 1m7acb 1m7af9 1m7c73 1m7cf8",
  "1m7f36 1m7f51 1m7f8a 1m7fbd 1m8001 1m800c 1m8012 1m8033 1m807f 1m8089 1m81e3 1m81ea 1m81f3",
  "1m81fc 1m820c 1m821b 1m821f 1m826e 1m8272 1m8278 1m864d 1m866b 1m8840 1m884c 1m8863 1m897e",
  "1m898b 1m89d2 1m8a00 1m8c37 1m8c46 1m8c55 1m8c78 1m8c9d 1m8d64 1m8d70 1m8db3 1m8eab 1m8eca",
  "1m8f9b 1m8fb0 1m8fb5 1m9091 1m9149 1m91c6 1m91cc 1m91d1 1m9577 1m9580 1m961c 1m96b6 1m96b9",
  "1m96e8 1m9751 1m975e 1m9762 1m9769 1m97cb 1m97ed 1m97f3 1m9801 1m98a8 1m98db 1m98df 1m9996",
  "1m9999 1m99ac 1m9aa8 1m9ad8 1m9adf 1m9b25 1m9b2f 1m9b32 1m9b3c 1m9b5a 1m9ce5 1m9e75 1m9e7f",
  "1m9ea5 1m9ebb 1m9ec3 1m9ecd 1m9ed1 1m9ef9 1m9efd 1m9f0e 1m9f13 1m9f20 1m9f3b 1m9f4a 1m9f52",
  "1m9f8d 1m9f9c 1m9fa0 2ax 1m20 1v 1m2e 33v 1m3012 1v 1m5341 2m5344 5v 1x 56v 2x 2v 1m20,3099",
  "1m20,309a 2v 1m3088,308a 5fv 1m30b3,30c8 5x 2bv 1x 2m1100 1m11aa 1m1102 2m11ac 3m1103 6m11b0",
  "1m111a 3m1106 1m1121 am1109 15m1161 1i 2m1114 2m11c7 1m11cc 1m11ce 1m11d3 1m11d7 1m11d9 1m111c",
  "1m11dd 1m11df 2m111d 1m1120 2m1122 1m1127 1m1129 5m112b 1m1132 1m1136 1m1140 1m1147 1m114c",
  "2m11f1 3m1157 2m1184 1m1188 2m1191 1m1194 1m119e 1m11a1 1x 2v 1m4e00 1m4e8c 1m4e09 1m56db",
  "1m4e0a 1m4e2d 1m4e0b 1m7532 1m4e59 1m4e19 1m4e01 1m5929 1m5730 1m4eba 46v ax 10v 1m28,1100,29",
  "1m28,1102,29 1m28,1103,29 1m28,1105,29 1m28,1106,29 1m28,1107,29 1m28,1109,29 1m28,110b,29",
  "1m28,110c,29 1m28,110e,29 1m28,110f,29 1m28,1110,29 1m28,1111,29 1m28,1112,29 1m28,ac00,29",
  "1m28,b098,29 1m28,b2e4,29 1m28,b77c,29 1m28,b9c8,29 1m28,bc14,29 1m28,c0ac,29 1m28,c544,29",
  "1m28,c790,29 1m28,cc28,29 1m28,ce74,29 1m28,d0c0,29 1m28,d30c,29 1m28,d558,29 1m28,c8fc,29",
  "1m28,c624,c804,29 1m28,c624,d6c4,29 1x 1m28,4e00,29 1m28,4e8c,29 1m28,4e09,29 1m28,56db,29",
  "1m28,4e94,29 1m28,516d,29 1m28,4e03,29 1m28,516b,29 1m28,4e5d,29 1m28,5341,29 1m28,6708,29",
  "1m28,706b,29 1m28,6c34,29 1m28,6728,29 1m28,91d1,29 1m28,571f,29 1m28,65e5,29 1m28,682a,29",
  "1m28,6709,29 1m28,793e,29 1m28,540d,29 1m28,7279,29 1m28,8ca1,29 1m28,795d,29 1m28,52b4,29",
  "1m28,4ee3,29 1m28,547c,29 1m28,5b66,29 1m28,76e3,29 1m28,4f01,29 1m28,8cc7,29 1m28,5354,29",
  "1m28,796d,29 1m28,4f11,29 1m28,81ea,29 1m28,81f3,29 1m554f 1m5e7c 1m6587 1m7b8f 8v 1m70,74,65",
  "1m32,31 1m32,32 1m32,33 1m32,34 1m32,35 1m32,36 1m32,37 1m32,38 1m32,39 1m33,30 1m33,31 1m33,32",
  "1m33,33 1m33,34 1m33,35 1m1100 2m1102 3m1105 1m1109 2m110b 5m110e 1mac00 1mb098 1mb2e4 1mb77c",
  "1mb9c8 1mbc14 1mc0ac 1mc544 1mc790 1mcc28 1mce74 1md0c0 1md30c 1md558 1mcc38,ace0 1mc8fc,c758",
  "1mc6b0 1v 1m4e00 1m4e8c 1m4e09 1m56db 1m4e94 1m516d 1m4e03 1m516b 1m4e5d 1m5341 1m6708 1m706b",
  "1m6c34 1m6728 1m91d1 1m571f 1m65e5 1m682a 1m6709 1m793e 1m540d 1m7279 1m8ca1 1m795d 1m52b4",
  "1m79d8 1m7537 1m5973 1m9069 1m512a 1m5370 1m6ce8 1m9805 1m4f11 1m5199 1m6b63 1m4e0a 1m4e2d",
  "1m4e0b 1m5de6 1m53f3 1m533b 1m5b97 1m5b66 1m76e3 1m4f01 1m8cc7 1m5354 1m591c 1m33,36 1m33,37",
  "1m33,38 1m33,39 1m34,30 1m34,31 1m34,32 1m34,33 1m34,34 1m34,35 1m34,36 1m34,37 1m34,38 1m34,39",
  "1m35,30 1m31,6708 1m32,6708 1m33,6708 1m34,6708 1m35,6708 1m36,6708 1m37,6708 1m38,6708",
  "1m39,6708 1m31,30,6708 1m31,31,6708 1m31,32,6708 1m68,67 1m65,72,67 1m65,76 1m6c,74,64 1m30a2",
  "1m30a4 1m30a6 1m30a8 2m30aa 1m30ad 1m30af 1m30b1 1m30b3 1m30b5 1m30b7 1m30b9 1m30bb 1m30bd",
  "1m30bf 1m30c1 1m30c4 1m30c6 1m30c8 6m30ca 1m30d2 1m30d5 1m30d8 1m30db 5m30de 1m30e4 1m30e6",
  "6m30e8 4m30ef 1m4ee4,548c 1m30a2,30d1,30fc,30c8 1m30a2,30eb,30d5,30a1 1m30a2,30f3,30da,30a2",
  "1m30a2,30fc,30eb 1m30a4,30cb,30f3,30b0 1m30a4,30f3,30c1 1m30a6,30a9,30f3",
  "1m30a8,30b9,30af,30fc,30c9 1m30a8,30fc,30ab,30fc 1m30aa,30f3,30b9 1m30aa,30fc,30e0",
  "1m30ab,30a4,30ea 1m30ab,30e9,30c3,30c8 1m30ab,30ed,30ea,30fc 1m30ac,30ed,30f3 1m30ac,30f3,30de",
  "1m30ae,30ac 1m30ae,30cb,30fc 1m30ad,30e5,30ea,30fc 1m30ae,30eb,30c0,30fc 1m30ad,30ed",
  "1m30ad,30ed,30b0,30e9,30e0 1m30ad,30ed,30e1,30fc,30c8,30eb 1m30ad,30ed,30ef,30c3,30c8",
  "1m30b0,30e9,30e0 1m30b0,30e9,30e0,30c8,30f3 1m30af,30eb,30bc,30a4,30ed 1m30af,30ed,30fc,30cd",
  "1m30b1,30fc,30b9 1m30b3,30eb,30ca 1m30b3,30fc,30dd 1m30b5,30a4,30af,30eb",
  "1m30b5,30f3,30c1,30fc,30e0 1m30b7,30ea,30f3,30b0 1m30bb,30f3,30c1 1m30bb,30f3,30c8",
  "1m30c0,30fc,30b9 1m30c7,30b7 1m30c9,30eb 1m30c8,30f3 1m30ca,30ce 1m30ce,30c3,30c8",
  "1m30cf,30a4,30c4 1m30d1,30fc,30bb,30f3,30c8 1m30d1,30fc,30c4 1m30d0,30fc,30ec,30eb",
  "1m30d4,30a2,30b9,30c8,30eb 1m30d4,30af,30eb 1m30d4,30b3 1m30d3,30eb 1m30d5,30a1,30e9,30c3,30c9",
  "1m30d5,30a3,30fc,30c8 1m30d6,30c3,30b7,30a7,30eb 1m30d5,30e9,30f3 1m30d8,30af,30bf,30fc,30eb",
  "1m30da,30bd 1m30da,30cb,30d2 1m30d8,30eb,30c4 1m30da,30f3,30b9 1m30da,30fc,30b8",
  "1m30d9,30fc,30bf 1m30dd,30a4,30f3,30c8 1m30dc,30eb,30c8 1m30db,30f3 1m30dd,30f3,30c9",
  "1m30db,30fc,30eb 1m30db,30fc,30f3 1m30de,30a4,30af,30ed 1m30de,30a4,30eb 1m30de,30c3,30cf",
  "1m30de,30eb,30af 1m30de,30f3,30b7,30e7,30f3 1m30df,30af,30ed,30f3 1m30df,30ea",
  "1m30df,30ea,30d0,30fc,30eb 1m30e1,30ac 1m30e1,30ac,30c8,30f3 1m30e1,30fc,30c8,30eb",
  "1m30e4,30fc,30c9 1m30e4,30fc,30eb 1m30e6,30a2,30f3 1m30ea,30c3,30c8,30eb 1m30ea,30e9",
  "1m30eb,30d4,30fc 1m30eb,30fc,30d6,30eb 1m30ec,30e0 1m30ec,30f3,30c8,30b2,30f3 1m30ef,30c3,30c8",
  "1m30,70b9 1m31,70b9 1m32,70b9 1m33,70b9 1m34,70b9 1m35,70b9 1m36,70b9 1m37,70b9 1m38,70b9",
  "1m39,70b9 1m31,30,70b9 1m31,31,70b9 1m31,32,70b9 1m31,33,70b9 1m31,34,70b9 1m31,35,70b9",
  "1m31,36,70b9 1m31,37,70b9 1m31,38,70b9 1m31,39,70b9 1m32,30,70b9 1m32,31,70b9 1m32,32,70b9",
  "1m32,33,70b9 1m32,34,70b9 1m68,70,61 1m64,61 1m61,75 1m62,61,72 1m6f,76 1m70,63 1m64,6d",
  "1m64,6d,32 1m64,6d,33 1m69,75 1m5e73,6210 1m662d,548c 1m5927,6b63 1m660e,6cbb",
  "1m682a,5f0f,4f1a,793e 1m70,61 1m6e,61 1m3bc,61 1m6d,61 1m6b,61 1m6b,62 1m6d,62 1m67,62",
  "1m63,61,6c 1m6b,63,61,6c 1m70,66 1m6e,66 1m3bc,66 1m3bc,67 1m6d,67 1m6b,67 1m68,7a 1m6b,68,7a",
  "1m6d,68,7a 1m67,68,7a 1m74,68,7a 1m3bc,6c 1m6d,6c 1m64,6c 1m6b,6c 1m66,6d 1m6e,6d 1m3bc,6d",
  "1m6d,6d 1m63,6d 1m6b,6d 1m6d,6d,32 1m63,6d,32 1m6d,32 1m6b,6d,32 1m6d,6d,33 1m63,6d,33 1m6d,33",
  "1m6b,6d,33 1m6d,2215,73 1m6d,2215,73,32 1m70,61 1m6b,70,61 1m6d,70,61 1m67,70,61 1m72,61,64",
  "1m72,61,64,2215,73 1m72,61,64,2215,73,32 1m70,73 1m6e,73 1m3bc,73 1m6d,73 1m70,76 1m6e,76",
  "1m3bc,76 1m6d,76 1m6b,76 1m6d,76 1m70,77 1m6e,77 1m3bc,77 1m6d,77 1m6b,77 1m6d,77 1m6b,3c9",
  "1m6d,3c9 1x 1m62,71 1m63,63 1m63,64 1m63,2215,6b,67 1x 1m64,62 1m67,79 1m68,61 1m68,70 1m69,6e",
  "1m6b,6b 1m6b,6d 1m6b,74 1m6c,6d 1m6c,6e 1m6c,6f,67 1m6c,78 1m6d,62 1m6d,69,6c 1m6d,6f,6c",
  "1m70,68 1x 1m70,70,6d 1m70,72 1m73,72 1m73,76 1m77,62 1m76,2215,6d 1m61,2215,6d 1m31,65e5",
  "1m32,65e5 1m33,65e5 1m34,65e5 1m35,65e5 1m36,65e5 1m37,65e5 1m38,65e5 1m39,65e5 1m31,30,65e5",
  "1m31,31,65e5 1m31,32,65e5 1m31,33,65e5 1m31,34,65e5 1m31,35,65e5 1m31,36,65e5 1m31,37,65e5",
  "1m31,38,65e5 1m31,39,65e5 1m32,30,65e5 1m32,31,65e5 1m32,32,65e5 1m32,33,65e5 1m32,34,65e5",
  "1m32,35,65e5 1m32,36,65e5 1m32,37,65e5 1m32,38,65e5 1m32,39,65e5 1m33,30,65e5 1m33,31,65e5",
  "1m67,61,6c 708dv 3x 37v 9x 15cv 14x 2ep 12v 1cp 1m44a 1m44c 5av 8x 22v ep 2v 3ep 1ma76f 8v 4p",
  "1m1d79 ap 3v 1ma78c 1v 1m265 2v 4p 2v 14p 1m266 1m25c 1m261 1m26c 1m26a 1v 1m29e 1m287 1m29d",
  "1mab53 10p 1ma794 1m282 1m1d8e 4p 1m264 10p 1m19b 1m277 13x 1m73 1m63 1m66 1m71 1ma7f6 2v 1m127",
  "1m153 33v 3x av 6x 38v 8x 46v 8x cv 6x 74v bx 1ev 3x 4ev 1x bv 4x 21v 1x 37v 9x ev 2x av 2x 67v",
  "18x 1cv ax 6v 2x 6v 2x 6v 9x 7v 1x 7v 1x 2cv 1ma727 1mab37 1m26b 1mab52 9v 1m28d 2v 4x 50m13a0",
  "2ev 2x av 6x 2ba4v cx 17v 4x 31v 2104x 1m8c48 1m66f4 1m8eca 1m8cc8 1m6ed1 1m4e32 1m53e5 2s9f9c",
  "1m5951 1m91d1 1m5587 1m5948 1m61f6 1m7669 1m7f85 1m863f 1m87ba 1m88f8 1m908f 1m6a02 1m6d1b",
  "1m70d9 1m73de 1m843d 1m916a 1m99f1 1m4e82 1m5375 1m6b04 1m721b 1m862d 1m9e1e 1m5d50 1m6feb",
  "1m85cd 1m8964 1m62c9 1m81d8 1m881f 1m5eca 1m6717 1m6d6a 1m72fc 1m90ce 1m4f86 1m51b7 1m52de",
  "1m64c4 1m6ad3 1m7210 1m76e7 1m8001 1m8606 1m865c 1m8def 1m9732 1m9b6f 1m9dfa 1m788c 1m797f",
  "1m7da0 1m83c9 1m9304 1m9e7f 1m8ad6 1m58df 1m5f04 1m7c60 1m807e 1m7262 1m78ca 1m8cc2 1m96f7",
  "1m58d8 1m5c62 1m6a13 1m6dda 1m6f0f 1m7d2f 1m7e37 1m964b 1m52d2 1m808b 1m51dc 1m51cc 1m7a1c",
  "1m7dbe 1m83f1 1m9675 1m8b80 1m62cf 1m6a02 1m8afe 1m4e39 1m5be7 1m6012 1m7387 1m7570 1m5317",
  "1m78fb 1m4fbf 1m5fa9 1m4e0d 1m6ccc 1m6578 1m7d22 1m53c3 1m585e 1m7701 1m8449 1m8aaa 1m6bba",
  "1m8fb0 1m6c88 1m62fe 1m82e5 1m63a0 1m7565 1m4eae 1m5169 1m51c9 1m6881 1m7ce7 1m826f 1m8ad2",
  "1m91cf 1m52f5 1m5442 1m5973 1m5eec 1m65c5 1m6ffe 1m792a 1m95ad 1m9a6a 1m9e97 1m9ece 1m529b",
  "1m66c6 1m6b77 1m8f62 1m5e74 1m6190 1m6200 1m649a 1m6f23 1m7149 1m7489 1m79ca 1m7df4 1m806f",
  "1m8f26 1m84ee 1m9023 1m934a 1m5217 1m52a3 1m54bd 1m70c8 1m88c2 1m8aaa 1m5ec9 1m5ff5 1m637b",
  "1m6bae 1m7c3e 1m7375 1m4ee4 1m56f9 1m5be7 1m5dba 1m601c 1m73b2 1m7469 1m7f9a 1m8046 1m9234",
  "1m96f6 1m9748 1m9818 1m4f8b 1m79ae 1m91b4 1m96b8 1m60e1 1m4e86 1m50da 1m5bee 1m5c3f 1m6599",
  "1m6a02 1m71ce 1m7642 1m84fc 1m907c 1m9f8d 1m6688 1m962e 1m5289 1m677b 1m67f3 1m6d41 1m6e9c",
  "1m7409 1m7559 1m786b 1m7d10 1m985e 1m516d 1m622e 1m9678 1m502b 1m5d19 1m6dea 1m8f2a 1m5f8b",
  "1m6144 1m6817 1m7387 1m9686 1m5229 1m540f 1m5c65 1m6613 1m674e 1m68a8 1m6ce5 1m7406 1m75e2",
  "1m7f79 1m88cf 1m88e1 1m91cc 1m96e2 1m533f 1m6eba 1m541d 1m71d0 1m7498 1m85fa 1m96a3 1m9c57",
  "1m9e9f 1m6797 1m6dcb 1m81e8 1m7acb 1m7b20 1m7c92 1m72c0 1m7099 1m8b58 1m4ec0 1m8336 1m523a",
  "1m5207 1m5ea6 1m62d3 1m7cd6 1m5b85 1m6d1e 1m66b4 1m8f3b 1m884c 1m964d 1m898b 1m5ed3 1m5140",
  "1m55c0 2v 1m585a 1v 1m6674 2v 1m51de 1m732a 1m76ca 1m793c 1m795e 1m7965 1m798f 1m9756 1m7cbe",
  "1m7fbd 1v 1m8612 1v 1m8af8 2v 1m9038 1m90fd 3v 1m98ef 1m98fc 1m9928 1m9db4 1m90de 1m96b7 1m4fae",
  "1m50e7 1m514d 1m52c9 1m52e4 1m5351 1m559d 1m5606 1m5668 1m5840 1m58a8 1m5c64 1m5c6e 1m6094",
  "1m6168 1m618e 1m61f2 1m654f 1m65e2 1m6691 1m6885 1m6d77 1m6e1a 1m6f22 1m716e 1m722b 1m7422",
  "1m7891 1m793e 1m7949 1m7948 1m7950 1m7956 1m795d 2m798d 1m7a40 1m7a81 1m7bc0 1m7df4 1m7e09",
  "1m7e41 1m7f72 1m8005 1m81ed 2s8279 1m8457 1m8910 1m8996 1m8b01 1m8b39 1m8cd3 1m8d08 1m8fb6",
  "1m9038 1m96e3 1m97ff 1m983b 1m6075 1m242ee 1m8218 2x 1m4e26 1m51b5 1m5168 1m4f80 1m5145 1m5180",
  "1m52c7 1m52fa 1m559d 1m5555 1m5599 1m55e2 1m585a 1m58b3 1m5944 1m5954 1m5a62 1m5b28 1m5ed2",
  "1m5ed9 1m5f69 1m5fad 1m60d8 1m614e 1m6108 1m618e 1m6160 1m61f2 1m6234 1m63c4 1m641c 1m6452",
  "1m6556 1m6674 1m6717 1m671b 1m6756 1m6b79 1m6bba 1m6d41 1m6edb 1m6ecb 1m6f22 1m701e 1m716e",
  "1m77a7 1m7235 1m72af 1m732a 1m7471 1m7506 1m753b 1m761d 1m761f 1m76ca 1m76db 1m76f4 1m774a",
  "1m7740 1m78cc 1m7ab1 1m7bc0 1m7c7b 1m7d5b 1m7df4 1m7f3e 1m8005 1m8352 1m83ef 1m8779 1m8941",
  "1m8986 1m8996 1m8abf 1m8af8 1m8acb 1m8b01 1m8afe 1m8aed 1m8b39 1m8b8a 1m8d08 1m8f38 1m9072",
  "1m9199 1m9276 1m967c 1m96e3 1m9756 1m97db 1m97ff 1m980b 1m983b 1m9b12 1m9f9c 1m2284a 1m22844",
  "1m233d5 1m3b9d 1m4018 1m4039 1m25249 1m25cd0 1m27ed3 1m9f43 1m9f8e 26x 1m66,66 1m66,69 1m66,6c",
  "1m66,66,69 1m66,66,6c 1m73,74 1m73,74 cx 1m574,576 1m574,565 1m574,56b 1m57e,576 1m574,56d 5x",
  "1m5d9,5b4 1v 1m5f2,5b7 1m5e2 1m5d0 2m5d3 3m5db 1m5e8 1m5ea 1m2b 1m5e9,5c1 1m5e9,5c2",
  "1m5e9,5bc,5c1 1m5e9,5bc,5c2 1m5d0,5b7 1m5d0,5b8 1m5d0,5bc 1m5d1,5bc 1m5d2,5bc 1m5d3,5bc",
  "1m5d4,5bc 1m5d5,5bc 1m5d6,5bc 1x 1m5d8,5bc 1m5d9,5bc 1m5da,5bc 1m5db,5bc 1m5dc,5bc 1x 1m5de,5bc",
  "1x 1m5e0,5bc 1m5e1,5bc 1x 1m5e3,5bc 1m5e4,5bc 1x 1m5e6,5bc 1m5e7,5bc 1m5e8,5bc 1m5e9,5bc",
  "1m5ea,5bc 1m5d5,5b9 1m5d1,5bf 1m5db,5bf 1m5e4,5bf 1m5d0,5dc 2s671 4s67b 4s67e 4s680 4s67a 4s67f",
  "4s679 4s6a4 4s6a6 4s684 4s683 4s686 4s687 2s68d 2s68c 2s68e 2s688 2s698 2s691 4s6a9 4s6af 4s6b3",
  "4s6b1 2s6ba 4s6bb 2s6c0 4s6c1 4s6be 2s6d2 2s6d3 21v 4s6ad 2s6c7 2s6c6 2s6c8 1m6c7,674 2s6cb",
  "2s6c5 2s6c9 4s6d0 2s649 1m626,627 1m626,627 1m626,6d5 1m626,6d5 1m626,648 1m626,648 1m626,6c7",
  "1m626,6c7 1m626,6c6 1m626,6c6 1m626,6c8 1m626,6c8 1m626,6d0 1m626,6d0 1m626,6d0 1m626,649",
  "1m626,649 1m626,649 4s6cc 1m626,62c 1m626,62d 1m626,645 1m626,649 1m626,64a 1m628,62c 1m628,62d",
  "1m628,62e 1m628,645 1m628,649 1m628,64a 1m62a,62c 1m62a,62d 1m62a,62e 1m62a,645 1m62a,649",
  "1m62a,64a 1m62b,62c 1m62b,645 1m62b,649 1m62b,64a 1m62c,62d 1m62c,645 1m62d,62c 1m62d,645",
  "1m62e,62c 1m62e,62d 1m62e,645 1m633,62c 1m633,62d 1m633,62e 1m633,645 1m635,62d 1m635,645",
  "1m636,62c 1m636,62d 1m636,62e 1m636,645 1m637,62d 1m637,645 1m638,645 1m639,62c 1m639,645",
  "1m63a,62c 1m63a,645 1m641,62c 1m641,62d 1m641,62e 1m641,645 1m641,649 1m641,64a 1m642,62d",
  "1m642,645 1m642,649 1m642,64a 1m643,627 1m643,62c 1m643,62d 1m643,62e 1m643,644 1m643,645",
  "1m643,649 1m643,64a 1m644,62c 1m644,62d 1m644,62e 1m644,645 1m644,649 1m644,64a 1m645,62c",
  "1m645,62d 1m645,62e 1m645,645 1m645,649 1m645,64a 1m646,62c 1m646,62d 1m646,62e 1m646,645",
  "1m646,649 1m646,64a 1m647,62c 1m647,645 1m647,649 1m647,64a 1m64a,62c 1m64a,62d 1m64a,62e",
  "1m64a,645 1m64a,649 1m64a,64a 1m630,670 1m631,670 1m649,670 1m20,64c,651 1m20,64d,651",
  "1m20,64e,651 1m20,64f,651 1m20,650,651 1m20,651,670 1m626,631 1m626,632 1m626,645 1m626,646",
  "1m626,649 1m626,64a 1m628,631 1m628,632 1m628,645 1m628,646 1m628,649 1m628,64a 1m62a,631",
  "1m62a,632 1m62a,645 1m62a,646 1m62a,649 1m62a,64a 1m62b,631 1m62b,632 1m62b,645 1m62b,646",
  "1m62b,649 1m62b,64a 1m641,649 1m641,64a 1m642,649 1m642,64a 1m643,627 1m643,644 1m643,645",
  "1m643,649 1m643,64a 1m644,645 1m644,649 1m644,64a 1m645,627 1m645,645 1m646,631 1m646,632",
  "1m646,645 1m646,646 1m646,649 1m646,64a 1m649,670 1m64a,631 1m64a,632 1m64a,645 1m64a,646",
  "1m64a,649 1m64a,64a 1m626,62c 1m626,62d 1m626,62e 1m626,645 1m626,647 1m628,62c 1m628,62d",
  "1m628,62e 1m628,645 1m628,647 1m62a,62c 1m62a,62d 1m62a,62e 1m62a,645 1m62a,647 1m62b,645",
  "1m62c,62d 1m62c,645 1m62d,62c 1m62d,645 1m62e,62c 1m62e,645 1m633,62c 1m633,62d 1m633,62e",
  "1m633,645 1m635,62d 1m635,62e 1m635,645 1m636,62c 1m636,62d 1m636,62e 1m636,645 1m637,62d",
  "1m638,645 1m639,62c 1m639,645 1m63a,62c 1m63a,645 1m641,62c 1m641,62d 1m641,62e 1m641,645",
  "1m642,62d 1m642,645 1m643,62c 1m643,62d 1m643,62e 1m643,644 1m643,645 1m644,62c 1m644,62d",
  "1m644,62e 1m644,645 1m644,647 1m645,62c 1m645,62d 1m645,62e 1m645,645 1m646,62c 1m646,62d",
  "1m646,62e 1m646,645 1m646,647 1m647,62c 1m647,645 1m647,670 1m64a,62c 1m64a,62d 1m64a,62e",
  "1m64a,645 1m64a,647 1m626,645 1m626,647 1m628,645 1m628,647 1m62a,645 1m62a,647 1m62b,645",
  "1m62b,647 1m633,645 1m633,647 1m634,645 1m634,647 1m643,644 1m643,645 1m644,645 1m646,645",
  "1m646,647 1m64a,645 1m64a,647 1m640,64e,651 1m640,64f,651 1m640,650,651 1m637,649 1m637,64a",
  "1m639,649 1m639,64a 1m63a,649 1m63a,64a 1m633,649 1m633,64a 1m634,649 1m634,64a 1m62d,649",
  "1m62d,64a 1m62c,649 1m62c,64a 1m62e,649 1m62e,64a 1m635,649 1m635,64a 1m636,649 1m636,64a",
  "1m634,62c 1m634,62d 1m634,62e 1m634,645 1m634,631 1m633,631 1m635,631 1m636,631 1m637,649",
  "1m637,64a 1m639,649 1m639,64a 1m63a,649 1m63a,64a 1m633,649 1m633,64a 1m634,649 1m634,64a",
  "1m62d,649 1m62d,64a 1m62c,649 1m62c,64a 1m62e,649 1m62e,64a 1m635,649 1m635,64a 1m636,649",
  "1m636,64a 1m634,62c 1m634,62d 1m634,62e 1m634,645 1m634,631 1m633,631 1m635,631 1m636,631",
  "1m634,62c 1m634,62d 1m634,62e 1m634,645 1m633,647 1m634,647 1m637,645 1m633,62c 1m633,62d",
  "1m633,62e 1m634,62c 1m634,62d 1m634,62e 1m637,645 1m638,645 1m627,64b 1m627,64b 12v",
  "1m62a,62c,645 1m62a,62d,62c 1m62a,62d,62c 1m62a,62d,645 1m62a,62e,645 1m62a,645,62c",
  "1m62a,645,62d 1m62a,645,62e 1m62c,645,62d 1m62c,645,62d 1m62d,645,64a 1m62d,645,649",
  "1m633,62d,62c 1m633,62c,62d 1m633,62c,649 1m633,645,62d 1m633,645,62d 1m633,645,62c",
  "1m633,645,645 1m633,645,645 1m635,62d,62d 1m635,62d,62d 1m635,645,645 1m634,62d,645",
  "1m634,62d,645 1m634,62c,64a 1m634,645,62e 1m634,645,62e 1m634,645,645 1m634,645,645",
  "1m636,62d,649 1m636,62e,645 1m636,62e,645 1m637,645,62d 1m637,645,62d 1m637,645,645",
  "1m637,645,64a 1m639,62c,645 1m639,645,645 1m639,645,645 1m639,645,649 1m63a,645,645",
  "1m63a,645,64a 1m63a,645,649 1m641,62e,645 1m641,62e,645 1m642,645,62d 1m642,645,645",
  "1m644,62d,645 1m644,62d,64a 1m644,62d,649 1m644,62c,62c 1m644,62c,62c 1m644,62e,645",
  "1m644,62e,645 1m644,645,62d 1m644,645,62d 1m645,62d,62c 1m645,62d,645 1m645,62d,64a",
  "1m645,62c,62d 1m645,62c,645 1m645,62e,62c 1m645,62e,645 2v 1m645,62c,62e 1m647,645,62c",
  "1m647,645,645 1m646,62d,645 1m646,62d,649 1m646,62c,645 1m646,62c,645 1m646,62c,649",
  "1m646,645,64a 1m646,645,649 1m64a,645,645 1m64a,645,645 1m628,62e,64a 1m62a,62c,64a",
  "1m62a,62c,649 1m62a,62e,64a 1m62a,62e,649 1m62a,645,64a 1m62a,645,649 1m62c,645,64a",
  "1m62c,62d,649 1m62c,645,649 1m633,62e,649 1m635,62d,64a 1m634,62d,64a 1m636,62d,64a",
  "1m644,62c,64a 1m644,645,64a 1m64a,62d,64a 1m64a,62c,64a 1m64a,645,64a 1m645,645,64a",
  "1m642,645,64a 1m646,62d,64a 1m642,645,62d 1m644,62d,645 1m639,645,64a 1m643,645,64a",
  "1m646,62c,62d 1m645,62e,64a 1m644,62c,645 1m643,645,645 1m644,62c,645 1m646,62c,62d",
  "1m62c,62d,64a 1m62d,62c,64a 1m645,62c,64a 1m641,645,64a 1m628,62d,64a 1m643,645,645",
  "1m639,62c,645 1m635,645,645 1m633,62e,64a 1m646,62c,64a 8v 20x 1m635,644,6d2 1m642,644,6d2",
  "1m627,644,644,647 1m627,643,628,631 1m645,62d,645,62f 1m635,644,639,645 1m631,633,648,644",
  "1m639,644,64a,647 1m648,633,644,645 1m635,644,649",
  "1m635,644,649,20,627,644,644,647,20,639,644,64a,647,20,648,633,644,645",
  "1m62c,644,20,62c,644,627,644,647 1m631,6cc,627,644 3v 10i 1m2c 1m3001 1x 2m3a 1m21 1m3f 2m3016",
  "7x 10v 1x 1m2014 1m2013 2s5f 2m28 1m7b 1m7d 2m3014 2m3010 2m300a 2m3008 4m300c 2v 1m5b 1m5d",
  "1m20,305 1m20,305 1m20,305 1m20,305 3s5f 1m2c 1m3001 2x 1m3b 1m3a 1m3f 1m21 1m2014 2m28 1m7b",
  "1m7d 2m3014 1m23 1m26 2m2a 1m2d 1m3c 1m3e 1m3d 1x 1m5c 2m24 1m40 4x 1m20,64b 1m640,64b 1m20,64c",
  "1v 1m20,64d 1x 1m20,64e 1m640,64e 1m20,64f 1m640,64f 1m20,650 1m640,650 1m20,651 1m640,651",
  "1m20,652 1m640,652 2m621 2m622 2m623 2m624 2m625 3s626 2s627 4s628 2s629 4s62a 4s62b 4s62c",
  "4s62d 4s62e 2s62f 2s630 2s631 2s632 4s633 4s634 4s635 4s636 4s637 4s638 4s639 4s63a 4s641 4s642",
  "4s643 4s644 4s645 4s646 4s647 2s648 2s649 4s64a 1m644,622 1m644,622 1m644,623 1m644,623",
  "1m644,625 1m644,625 1m644,627 1m644,627 2x 1i 1x 20m21 1am61 24m5b 2m2985 1m2e 2m300c 1m3001",
  "1m30fb 1m30f2 1m30a1 1m30a3 1m30a5 1m30a7 1m30a9 1m30e3 1m30e5 1m30e7 1m30c3 1m30fc 1m30a2",
  "1m30a4 1m30a6 1m30a8 2m30aa 1m30ad 1m30af 1m30b1 1m30b3 1m30b5 1m30b7 1m30b9 1m30bb 1m30bd",
  "1m30bf 1m30c1 1m30c4 1m30c6 1m30c8 6m30ca 1m30d2 1m30d5 1m30d8 1m30db 5m30de 1m30e4 1m30e6",
  "6m30e8 1m30ef 1m30f3 2m3099 1i 2m1100 1m11aa 1m1102 2m11ac 3m1103 6m11b0 1m111a 3m1106 1m1121",
  "am1109 3x 6m1161 2x 6m1167 2x 6m116d 2x 3m1173 3x 2ma2 1mac 1m20,304 1ma6 1ma5 1m20a9 1x 1m2502",
  "4m2190 1m25a0 1m25cb 11x cv 1x 1av 1x 13v 1x 2v 1x fv 2x ev 22x 7bv 5x 3v 4x 2dv 3x 58v 1x dv",
  "3x 1v 2fx 2ev 82x 1dv 3x 31v fx 1cv 4x 24v 9x 1ev 5x 2bv 5x 1ev 1x 25v 4x ev 2ax 28m10428 76v",
  "2x av 6x 24m104d8 4x 24v 4x 28v 8x 34v bx 1v bm10597 1x fm105a3 1x 7m105b3 1x 2m105bb 1x bv 1x",
  "fv 1x 7v 1x 2v 3x 34v cx 137v 9x 16v ax 8v 18x 1v 2m2d0 1me6 1m299 1m253 1x 1m2a3 1mab66 1m2a5",
  "1m2a4 2m256 1m1d91 1m258 1m25e 1m2a9 1m264 1m262 1m260 1m29b 1m127 1m29c 1m267 1m284 2m2aa",
  "1m26c 1m1df04 1ma78e 1m26e 1m1df05 1m28e 1m1df06 1mf8 2m276 1m71 1m27a 1m1df08 2m27d 1m280",
  "1m2a8 1m2a6 1mab67 1m2a7 1m288 1m2c71 1x 1m28f 2m2a1 1m298 3m1c0 1m1df0a 1m1df1e 45x 6v 2x 1v",
  "1x 2cv 1x 2v 3x 1v 2x 17v 1x 48v 8x 9v 30x 13v 1x 2v 5x 21v 3x 1bv 5x 1bv 26x 38v 4x 14v 2x 32v",
  "1x 2v 5x 8v 1x 3v 1x 1dv 2x 3v 4x av 7x 9v 7x 40v 20x 27v 4x cv 9x 36v 3x 1dv 2x 1bv 5x 1av 7x",
  "4v cx 7v 50x 49v 37x 33m10cc0 dx 33v 7x 2ev 8x av 6x 10v 16m10d70 3x 1dv 8x 2v d0x 1fv 1x 2av",
  "1x 3v 2x 2v 10x 6v 8x 9v 21x 2ev 8x 2av 16x 1av 26x 1cv 14x 17v 9x 4ev 4x 24v 9x 3ev 1x 5v dx",
  "19v 7x av 6x 35v 1x 12v 8x 27v 9x 60v 1x 14v bx 12v 1x 2fv 3ex 7v 1x 1v 1x 4v 1x fv 1x bv 6x",
  "3bv 5x av 6x 4v 1x 8v 2x 2v 2x 16v 1x 7v 1x 2v 1x 5v 1x av 2x 2v 2x 3v 2x 1v 6x 1v 5x 7v 2x 7v",
  "3x 5v bx av 1x 1v 2x 1v 1x 26v 1x av 1x 1v 2x 1v 1x 4v 1x av 1x 2v 8x 2v 1dx 5cv 1x 5v 1ex 48v",
  "8x av a6x 36v 2x 26v 22x 45v bx av 6x dv 13x 3av 6x av 6x 14v 1cx 1bv 2x fv 4x 17v b9x 3cv 64x",
  "20m118c0 33v cx 8v 2x 1v 2x 8v 1x 2v 1x 1ev 1x 2v 2x cv 9x av 46x 8v 2x 2ev 2x bv 1bx 48v 8x",
  "53v dx 49v 7x av 56x 8v 58x 22v ex av 6x 9v 1x 2dv 1x ev ax 1dv 3x 20v 2x 16v 1x ev 49x 7v 1x",
  "2v 1x 2cv 3x 1v 1x 2v 1x 9v 8x av 6x 6v 1x 2v 1x 25v 1x 2v 1x 6v 7x av 6x 2cv 4x av f6x 19v 7x",
  "11v 1x 29v 3x 1dv 55x 1v fx 32v dx 39bv 66x 6fv 1x 5v bx c4v cx 137v 909x 63v dx 430v 10x 16v",
  "ax f9bv 5x 247v 1ab9x 3av 6c6x 239v 7x 1fv 1x av 4x 51v 1x av 6x 1ev 2x 6v ax 46v ax av 1x 7v",
  "1x 15v 5x 13v 1b0x 3av 6x 1ev 2x av 96x 20m16e60 3bv 5x 19m16ebb 2x 19v 2cx 4bv 4x 39v 7x 11v",
  "40x 5v bx 7v 9x 1cd6v 29x 20v 61x 73v dx 392v ex 33v 1e1dx 4v 1x 7v 1x 2v 1x 123v fx 1v 1dx 3v",
  "2x 1v ex 4v 8x 18cv 904x 6bv 5x dv 3x 9v 7x av 2x 4v 4i f5cx d6v 1am61 am30 3v 3x 1b4v 6x 17v",
  "fx 11v fx 2ev 2x 17v 9x 74v 3cx f6v ax 27v 2x 35v 1m1d157,1d165 1m1d158,1d165",
  "1m1d158,1d165,1d16e 1m1d158,1d165,1d16f 1m1d158,1d165,1d170 1m1d158,1d165,1d171",
  "1m1d158,1d165,1d172 ev 8i 40v 1m1d1b9,1d165 1m1d1ba,1d165 1m1d1b9,1d165,1d16e",
  "1m1d1ba,1d165,1d16e 1m1d1b9,1d165,1d16f 1m1d1ba,1d165,1d16f 2av 15x 46v ax 40v 30x 14v cx 14v",
  "cx 57v 9x 19v 87x 1am61 1am61 1am61 7m61 1x 12m69 1am61 1am61 1m61 1x 2m63 2x 1m67 2x 2m6a 2x",
  "4m6e 1x 8m73 4m61 1x 1m66 1x 7m68 1x bm70 1am61 1am61 2m61 1x 4m64 2x 8m6a 1x 7m73 1x 1am61",
  "2m61 1x 4m64 1x 5m69 1x 1m6f 3x 7m73 1x 1am61 1am61 1am61 1am61 1am61 1am61 1am61 1am61 1am61",
  "1am61 1am61 1am61 1am61 1m131 1m237 2x 11m3b1 1m3b8 7m3c3 1m2207 11m3b1 2s3c3 6m3c4 1m2202",
  "1m3b5 1m3b8 1m3ba 1m3c6 1m3c1 1m3c0 11m3b1 1m3b8 7m3c3 1m2207 11m3b1 2s3c3 6m3c4 1m2202 1m3b5",
  "1m3b8 1m3ba 1m3c6 1m3c1 1m3c0 11m3b1 1m3b8 7m3c3 1m2207 11m3b1 2s3c3 6m3c4 1m2202 1m3b5 1m3b8",
  "1m3ba 1m3c6 1m3c1 1m3c0 11m3b1 1m3b8 7m3c3 1m2207 11m3b1 2s3c3 6m3c4 1m2202 1m3b5 1m3b8 1m3ba",
  "1m3c6 1m3c1 1m3c0 11m3b1 1m3b8 7m3c3 1m2207 11m3b1 2s3c3 6m3c4 1m2202 1m3b5 1m3b8 1m3ba 1m3c6",
  "1m3c1 1m3c0 2s3dd 2x am30 am30 am30 am30 am30 28cv fx 5v 1x fv 50x 100v 300x 1fv 6x 6v d5x 7v",
  "1x 11v 2x 7v 1x 2v 1x 5v 5x 9m430 3m43a bm43e 1m44b 2m44d 1ma689 1m4d9 1m456 1m458 1m4e9 1m4af",
  "1m4cf 9m430 2m43a 2m43e 1m441 6m443 2m44a 1m491 1m456 1m455 1m45f 1m4ab 1ma651 1m4b1 21x 1v 70x",
  "2dv 3x ev 2x av 4x 2v 140x 1fv 11x 3av 5x 1v 1d0x 2av d6x 2bv 4x 1v c0x 1fv 1x 16v 8x 2v e0x 7v",
  "1x 4v 1x 2v 1x fv 1x c5v 2x 10v 29x 22m1e922 2av 4x av 4x 2v 311x 44v 4cx 3dv c2x 2m627 1m62c",
  "1m62f 1x 1m648 1m632 1m62d 1m637 1m64a 4m643 1m633 1m639 1m641 1m635 1m642 1m631 1m634 2m62a",
  "1m62e 1m630 1m636 1m638 1m63a 1m66e 1m6ba 1m6a1 1m66f 1x 1m628 1m62c 1x 1m647 2x 1m62d 1x 1m64a",
  "4m643 1m633 1m639 1m641 1m635 1m642 1x 1m634 2m62a 1m62e 1x 1m636 1x 1m63a 6x 1m62c 4x 1m62d 1x",
  "1m64a 1x 1m644 1x 1m646 1m633 1m639 1x 1m635 1m642 1x 1m634 2x 1m62e 1x 1m636 1x 1m63a 1x 1m6ba",
  "1x 1m66f 1x 1m628 1m62c 1x 1m647 2x 1m62d 1m637 1m64a 1m643 1x 2m645 1m633 1m639 1m641 1m635",
  "1m642 1x 1m634 2m62a 1m62e 1x 1m636 1m638 1m63a 1m66e 1x 1m6a1 1x 2m627 1m62c 1m62f 2m647 1m632",
  "1m62d 1m637 1m64a 1x 3m644 1m633 1m639 1m641 1m635 1m642 1m631 1m634 2m62a 1m62e 1m630 1m636",
  "1m638 1m63a 5x 1m628 1m62c 1m62f 1x 1m648 1m632 1m62d 1m637 1m64a 1x 3m644 1m633 1m639 1m641",
  "1m635 1m642 1m631 1m634 2m62a 1m62e 1m630 1m636 1m638 1m63a 34x 2v 10ex 2cv 4x 64v cx fv 2x fv",
  "1x fv 1x 25v bx 1m30,2c 1m31,2c 1m32,2c 1m33,2c 1m34,2c 1m35,2c 1m36,2c 1m37,2c 1m38,2c 1m39,2c",
  "5v 1m28,61,29 1m28,62,29 1m28,63,29 1m28,64,29 1m28,65,29 1m28,66,29 1m28,67,29 1m28,68,29",
  "1m28,69,29 1m28,6a,29 1m28,6b,29 1m28,6c,29 1m28,6d,29 1m28,6e,29 1m28,6f,29 1m28,70,29",
  "1m28,71,29 1m28,72,29 1m28,73,29 1m28,74,29 1m28,75,29 1m28,76,29 1m28,77,29 1m28,78,29",
  "1m28,79,29 1m28,7a,29 1m3014,73,3015 1m63 1m72 1m63,64 1m77,7a 1v 1am61 1m68,76 1m6d,76 1m73,64",
  "1m73,73 1m70,70,76 1m77,63 1av 1m6d,63 1m6d,64 1m6d,72 23v 1m64,6a 1dv 38x 1av 1m307b,304b",
  "1m30b3,30b3 1m30b5 dx 1m624b 1m5b57 1m53cc 1m30c7 1m4e8c 1m591a 1m89e3 1m5929 1m4ea4 1m6620",
  "1m7121 1m6599 1m524d 1m5f8c 1m518d 1m65b0 1m521d 1m7d42 1m751f 1m8ca9 1m58f0 1m5439 1m6f14",
  "1m6295 1m6355 1m4e00 1m4e09 1m904a 1m5de6 1m4e2d 1m53f3 1m6307 1m8d70 1m6253 1m7981 1m7a7a",
  "1m5408 1m6e80 1m6709 1m6708 1m7533 1m5272 1m55b6 1m914d 4x 1m3014,672c,3015 1m3014,4e09,3015",
  "1m3014,4e8c,3015 1m3014,5b89,3015 1m3014,70b9,3015 1m3014,6253,3015 1m3014,76d7,3015",
  "1m3014,52dd,3015 1m3014,6557,3015 7x 1m5f97 1m53ef ex 6v 9ax 3dav 2x 11v 3x dv 3x dav 6x cv 4x",
  "1v fx cv 4x 38v 8x av 6x 28v 8x 1ev 2x cv 4x 2v ex 9v 27x 158v 8x ev 2x dv 3x 47v 1x 1v 3x 12v",
  "1x dv 3x cv 5x 93v 1x 5cv am30 1v 405x a6e0v 20x 111fv 1x 168ev 2x 1d31v fx 26ev 9a2x 1m4e3d",
  "1m4e38 1m4e41 1m20122 1m4f60 1m4fae 1m4fbb 1m5002 1m507a 1m5099 1m50e7 1m50cf 1m349e 1m2063a",
  "1m514d 1m5154 1m5164 1m5177 1m2051c 1m34b9 1m5167 1m518d 1m2054b 1m5197 1m51a4 1m4ecc 1m51ac",
  "1m51b5 1m291df 1m51f5 1m5203 1m34df 1m523b 1m5246 1m5272 1m5277 1m3515 1m52c7 1m52c9 1m52e4",
  "1m52fa 2m5305 1m5317 1m5349 1m5351 1m535a 1m5373 1m537d 3s537f 1m20a2c 1m7070 1m53ca 1m53df",
  "1m20b63 1m53eb 1m53f1 1m5406 1m549e 1m5438 1m5448 1m5468 1m54a2 1m54f6 1m5510 1m5553 1m5563",
  "2s5584 1m5599 1m55ab 1m55b3 1m55c2 1m5716 1m5606 1m5717 1m5651 1m5674 1m5207 1m58ee 1m57ce",
  "1m57f4 1m580d 1m578b 1m5832 1m5831 1m58ac 1m214e4 1m58f2 1m58f7 1m5906 1m591a 1m5922 1m5962",
  "1m216a8 1m216ea 1m59ec 1m5a1b 1m5a27 1m59d8 1m5a66 1m36ee 1m36fc 1m5b08 2s5b3e 1m219c8 1m5bc3",
  "1m5bd8 1m5be7 1m5bf3 1m21b18 1m5bff 1m5c06 1m5f53 1m5c22 1m3781 1m5c60 1m5c6e 1m5cc0 1m5c8d",
  "1m21de4 1m5d43 1m21de6 1m5d6e 1m5d6b 1m5d7c 2m5de1 1m382f 1m5dfd 1m5e28 1m5e3d 1m5e69 1m3862",
  "1m22183 1m387c 1m5eb0 1m5eb3 1m5eb6 1m5eca 1m2a392 1m5efe 2s22331 1m8201 2s5f22 1m38c7 1m232b8",
  "1m261da 1m5f62 1m5f6b 1m38e3 1m5f9a 1m5fcd 1m5fd7 1m5ff9 1m6081 1m393a 1m391c 1m6094 1m226d4",
  "1m60c7 1m6148 1m614c 1m614e 1m614c 1m617a 1m618e 1m61b2 1m61a4 1m61af 1m61de 1m61f2 1m61f6",
  "1m6210 1m621b 1m625d 1m62b1 1m62d4 1m6350 1m22b0c 1m633d 1m62fc 1m6368 1m6383 1m63e4 1m22bf1",
  "1m6422 1m63c5 1m63a9 1m3a2e 1m6469 1m647e 1m649d 1m6477 1m3a6c 1m654f 1m656c 1m2300a 1m65e3",
  "1m66f8 1m6649 1m3b19 1m6691 1m3b08 1m3ae4 1m5192 1m5195 1m6700 1m669c 1m80ad 1m43d9 1m6717",
  "1m671b 1m6721 1m675e 1m6753 1m233c3 1m3b49 1m67fa 1m6785 1m6852 1m6885 1m2346d 1m688e 1m681f",
  "1m6914 1m3b9d 1m6942 1m69a3 1m69ea 1m6aa8 1m236a3 1m6adb 1m3c18 1m6b21 1m238a7 1m6b54 1m3c4e",
  "1m6b72 1m6b9f 2m6bba 1m23a8d 1m21d0b 1m23afa 1m6c4e 1m23cbc 1m6cbf 1m6ccd 1m6c67 1m6d16 1m6d3e",
  "1m6d77 1m6d41 1m6d69 1m6d78 1m6d85 1m23d1e 1m6d34 1m6e2f 1m6e6e 1m3d33 1m6ecb 1m6ec7 1m23ed1",
  "1m6df9 1m6f6e 1m23f5e 1m23f8e 1m6fc6 1m7039 1m701e 1m701b 1m3d96 1m704a 1m707d 1m7077 1m70ad",
  "1m20525 1m7145 1m24263 1m719c 1m243ab 1m7228 1m7235 1m7250 1m24608 1m7280 1m7295 1m24735",
  "1m24814 1m737a 1m738b 1m3eac 1m73a5 2s3eb8 1m7447 1m745c 1m7471 1m7485 1m74ca 1m3f1b 1m7524",
  "1m24c36 1m753e 1m24c92 1m7570 1m2219f 1m7610 1m24fa1 1m24fb8 1m25044 1m3ffc 1m4008 1m76f4",
  "1m250f3 1m250f2 1m25119 1m25133 2m771e 1m771f 1m774a 1m4039 1m778b 1m4046 1m4096 1m2541d 1m784e",
  "1m788c 1m78cc 1m40e3 1m25626 1m7956 1m2569a 1m256c5 1m798f 1m79eb 1m412f 1m7a40 1m7a4a 1m7a4f",
  "1m2597c 2s25aa7 1m7aee 1m4202 1m25bab 1m7bc6 1m7bc9 1m4227 1m25c80 1m7cd2 1m42a0 1m7ce8 1m7ce3",
  "1m7d00 1m25f86 1m7d63 1m4301 1m7dc7 1m7e02 1m7e45 1m4334 1m26228 1m26247 1m4359 1m262d9 1m7f7a",
  "1m2633e 1m7f95 1m7ffa 1m8005 1m264da 1m26523 1m8060 1m265a8 1m8070 1m2335f 1m43d5 1m80b2 1m8103",
  "1m440b 1m813e 1m5ab5 1m267a7 1m267b5 1m23393 1m2339c 1m8201 1m8204 1m8f9e 1m446b 1m8291 1m828b",
  "1m829d 1m52b3 1m82b1 1m82b3 1m82bd 1m82e6 1m26b3c 1m82e5 1m831d 1m8363 1m83ad 1m8323 1m83bd",
  "1m83e7 1m8457 1m8353 1m83ca 1m83cc 1m83dc 1m26c36 1m26d6b 1m26cd5 1m452b 1m84f1 1m84f3 1m8516",
  "1m273ca 1m8564 1m26f2c 1m455d 1m4561 1m26fb1 1m270d2 1m456b 1m8650 1m865c 1m8667 1m8669 1m86a9",
  "1m8688 1m870e 1m86e2 1m8779 1m8728 1m876b 1m8786 1m45d7 1m87e1 1m8801 1m45f9 1m8860 1m8863",
  "1m27667 1m88d7 1m88de 1m4635 1m88fa 1m34bb 1m278ae 1m27966 1m46be 1m46c7 1m8aa0 1m8aed 1m8b8a",
  "1m8c55 1m27ca8 1m8cab 1m8cc1 1m8d1b 1m8d77 1m27f2f 1m20804 1m8dcb 1m8dbc 1m8df0 1m208de 1m8ed4",
  "1m8f38 1m285d2 1m285ed 1m9094 1m90f1 1m9111 1m2872e 1m911b 1m9238 2m92d7 1m927c 1m93f9 1m9415",
  "1m28bfa 1m958b 1m4995 1m95b7 1m28d77 1m49e6 1m96c3 1m5db2 1m9723 1m29145 1m2921a 1m4a6e 1m4a76",
  "1m97e0 1m2940a 1m4ab2 1m29496 2s980b 1m9829 1m295b6 1m98e2 1m4b33 1m9929 1m99a7 1m99c2 1m99fe",
  "1m4bce 1m29b30 1m9b12 1m9c40 1m9cfd 1m4cce 1m4ced 1m9d67 1m2a0ce 1m4cf8 1m2a105 1m2a20e 1m2a291",
  "1m9ebb 1m4d56 1m9ef9 1m9efe 1m9f05 1m9f0f 1m9f16 1m9f3b 1m2a600 5e2x 134bv 5x 212av 9b86x 2c40v",
  "a04c0x f0i"]

/-- What becomes of a character. -/
inductive Effect where
  | keep
  | drop
  | refuse
  | replace (others : List Char)
  deriving Repr, DecidableEq

/-- The effect on the character at a place of a stretch. -/
def effectAt (s : Table.Stretch) (place : Nat) (c : Char) : Effect :=
  match s.kind with
  | 'v' => .keep
  | 'i' => .drop
  | 'm' =>
    match s.numbers with
    | [n] => .replace [Char.ofNat (n + place)]
    | ns => .replace (ns.map Char.ofNat)
  | 's' => .replace (s.numbers.map Char.ofNat)
  | 'p' => if place % 2 = 0 then .replace [Char.ofNat (c.toNat + 1)] else .keep
  | _ => .refuse

/-- The effect on a character. -/
def effect (c : Char) : Effect :=
  match Table.find? effects c.toNat with
  | some (s, place) => effectAt s place c
  | none => .refuse

/-- A text after the effects on its characters, unless one is refused. -/
def map? : List Char → Option (List Char)
  | [] => some []
  | c :: r =>
    match effect c with
    | .keep => (map? r).map (c :: ·)
    | .drop => map? r
    | .replace cs => (map? r).map (cs ++ ·)
    | .refuse => none

end Keyring.Domain

/-! # Collation weights

The weights of the characters beyond ASCII in the root order, and those of the sequences that are
weighed as one. An element is written as its primary, secondary and tertiary weight in base
sixteen; the last two are left out where they are 20 and 2.
-/

namespace FleetWatch.Collation

/-- Runs of characters with the elements of the first; a plus sign and a number tell by how
much the primary weight of the leading element grows from one character to the next. -/
def weightText : String :=
"80-84: 85:206 86-9F: A0:209.20.1B A1-A2:269+1C03 A3:1E6E A4-A5:1E6B+4 A6:6B0 A7-A8:3AF+12B A9:613
AA:20A6.20.14 AB-AC:333+37B AD: AE:615 AF-B0:4D7+7F B1:6A8 B2-B3:209E.20.14+1 B4:4D4 B5:2267.20.4
B6:3B1 B7-B8:296+247 B9-BA:209D.20.14+CA BB:334 BC:209D.20.1E;6B7.20.1E;20A0.20.1E
BD:209D.20.1E;6B7.20.1E;209E.20.1E BE:209F.20.1E;6B7.20.1E;20A0.20.1E BF:270
C6:20A6.20.A;0.11C.4;20D7.20.A D0:20C9.20.A;0.11C.4 D7:6AA D8:2167.20.8;0.2F DE:2223.20.8
DF:21B9.20.4;0.11C.4;21B9.20.4 E6:20A6.20.4;0.11C.4;20D7.20.4 F0:20C9.20.4;0.11C.4 F7:6A9
F8:2167;0.2F FE:2223 110:20C9.20.8;0.39 111:20C9;0.39 126:2106.20.8;0.39 127:2106;0.39 131:2113
132:2112.20.A;211F.20.A 133:2112.20.4;211F.20.4 138:2197 13F:2131.20.8;0.11C 140:2131;0.11C
141:2131.20.8;0.39 142:2131;0.39 149:223B.20.4;2155.20.4 14A:2163.20.8 14B:2163
152:2167.20.A;0.11C.4;20D7.20.A 153:2167.20.4;0.11C.4;20D7.20.4 166:21D0.20.8 167:21D0
17F:21B9.20.4;0.11D.4 180:20B6 181-182:20BC.20.8+1 183:20BD 184:2237.20.8 185:2237 186:2175.20.8
187:20C5.20.8 188:20C5 189-18A:20CF.20.8+1 18B:20D3.20.8 18C:20D3 18D:2211.20.4;21FD.20.4
18E-190:20DF.20.8+2 191:20F4.20.8 192:20F4 193-194:20FF.20.8+5 195:2108 196:211D.20.8
197-198:2118.20.8+11 199-19A:2129+D 19B:2149 19C:21EE.20.8 19D:215A.20.8 19E:215B 19F:217F.20.8
1A2:2105.20.8 1A3:2105 1A4:218B.20.8 1A5:218B 1A6-1A7:219A.20.8+9B 1A8:2235 1A9:21C5.20.8
1AA-1AB:21C9+A 1AC:21D4.20.8 1AD:21D4 1AE:21D5.20.8 1B1-1B2:21F2.20.8+6 1B3:220D.20.8 1B4:220D
1B5:2213.20.8 1B6:2213 1B7-1B8:221C.20.8+2 1B9-1BA:221E+3 1BB:2231 1BC:2236.20.8 1BD:2236
1BE:21CE.20.4;21B9.20.4 1BF-1C0:2227+24 1C1-1C3:224C+1 1C4:20C9.20.A;2211.20.A;0.28.4
1C5:20C9.20.A;2211.20.4;0.28.4 1C6:20C9.20.4;2211.20.4;0.28.4 1C7:2131.20.A;211F.20.A
1C8:2131.20.A;211F.20.4 1C9:2131.20.4;211F.20.4 1CA:2155.20.A;211F.20.A 1CB:2155.20.A;211F.20.4
1CC:2155.20.4;211F.20.4 1DD:20DF 1E4:20FD.20.8 1E5:20FD 1F1:20C9.20.A;2211.20.A
1F2:20C9.20.A;2211.20.4 1F3:20C9.20.4;2211.20.4 1F6-1F7:2108.20.8+11F 21C:2210.20.8 21D:2210
220:215B.20.8 221:20D4 222:2183.20.8 223:2183 224:2216.20.8 225:2216 234-235:2144+1C 236:21D8
237:2120 238:20C9.20.4;20B4.20.4 239:2191.20.4;2185.20.4 23A-23B:20A8.20.8+19 23C:20C1
23D-23E:2136.20.8+9B 23F-240:21C1+58 241:2239.20.8 242:2239 243-244:20B6.20.8+12E 245:21FC.20.8
246:20DB.20.8 247:20DB 248:2122.20.8 249:2122 24A:2196.20.8 24B:2196 24C:219D.20.8 24D:219D
24E:220C.20.8 24F:220C 250-251:20AE+1 252-253:20B2+A 254:2175 255-256:20C6+9 257-258:20D0+15
259-25A:20E1+5 25B-25C:20E3+4 25D-25E:20EA+1 25F:2124 260:20FF 261-262:20F9+3 263:2104
264-265:20ED+FE 266-267:210A+5 268-269:2118+5 26A-26B:2114+24 26C-26D:213B+5 26E-26F:2146+A8
270:21F1 271-272:2150+A 273:215E 274-275:2156+29 276-277:216B+16 278-279:218F+10 27A-27B:21A1+2
27C-27D:21A6+1 27E-27F:21AA+3 280-281:219A+19 282-283:21BE+7 284-285:2125+A5 286-287:21CB+F
288-289:21D5+F 28A-28B:21F2+6 28C-28D:21FC+4 28E-28F:214A+C1 290-291:2217+1 292-293:221C+6
294-295:2238+9 296-297:2249+7 298:2252 299-29A:20B5+37 29B-29C:2100+7 29D-29E:2123+C
29F-2A0:2132+63 2A1-2A2:2247+1 2A3:20C9.20.4;2211.20.4 2A4:20C9.20.4;221C.20.4
2A5:20C9.20.4;2218.20.4 2A6:21CE.20.4;21B9.20.4 2A7:21CE.20.4;21C5.20.4 2A8:21CE.20.4;20C6.20.4
2A9:20EE.20.4;2163.20.4 2AA:2131.20.4;21B9.20.4 2AB:2131.20.4;2211.20.4 2AC-2AD:2253+1
2AE-2AF:21EC+1 2B0-2B1:2106.20.14+4 2B2-2B3:211F.20.14+79 2B4-2B5:219F.20.14+4
2B6-2B7:21B3.20.14+4A 2B8:220A.20.14 2B9-2BA:4E4+2 2BB-2BC:2110+12B 2BD-2BE:2111+12C 2BF:2242
2C0-2C1:223A+9 2C2-2CF:4E7+1 2D0-2D1:1E4F+1 2D2-2D5:4F5+1 2D6-2D7:4FB+1 2D8-2D9:4D8+1
2DA-2DB:4DB+3 2DC-2DD:4D5+7 2DE-2DF:4FD+1 2E0-2E1:2104.20.14+2D 2E2-2E3:21B9.20.14+48
2E4:2241.20.14 2E5-2ED:4FF+1 2EE:223C 2EF-2FF:508+1 300:0.25 301:0.24 302:0.27 303:0.2D 304:0.32
305:0.3A 306:0.26 307:0.2E 308:0.2B 309:0.3B 30A:0.29 30B:0.2C 30C:0.28 30D-30E:0.33 30F:0.3C
310:0.3D 311:0.3E 312:0.33 313:0.22 314:0.23 315:0.33 316-319:0.34 31A:0.33 31B:0.3F 31C-320:0.34
321:0.40 322:0.41 323:0.42 324:0.43 325:0.44 326:0.45 327:0.30 328:0.31 329-32C:0.34 32D:0.46
32E:0.47 32F:0.34 330:0.48 331:0.49 332:0.21 333:0.34 334:0.4A 335:0.39 336-337:0.35 338:0.2F
339:0.4B 33A-33C:0.34 33D-33F:0.33 342:0.2A 345:0.4C 346:0.33 347-349:0.34 34A-34C:0.33
34D-34E:0.34 34F: 350-352:0.33 353-356:0.34 357:0.33 358:0.4D 359-35A:0.34 35B:0.33 35C:0.34
35D-35E:0.33 35F:0.34 360:0.4E 361:0.4F 362:0.34 363-364:20A6.20.4+31 365-366:2112.20.4+55
367:21DC.20.4 368-369:20BF.20.4+A 36A-36B:2106.20.4+46 36C-36D:2198.20.4+36 36E-36F:21F4.20.4+D
370:225F.20.8 371:225F 372:2280.20.8 373:2280 375:4E5 376:225C.20.8 377:225C 37A:2262.20.4
37B:2275 37C-37D:2274+2 37F:2263.20.8 384:4D4 391-393:2255.20.8+1 394-395:2259.20.8+1
396-397:225E.20.8+2 398-399:2261.20.8+1 39A-39B:2264.20.8+1 39C-3A0:2267.20.8+1 3A1:2270.20.8
3A3-3A4:2273.20.8+4 3A5-3A8:2278.20.8+1 3A9:227D.20.8 3B1-3B3:2255+1 3B4-3B5:2259+1 3B6-3B7:225E+2
3B8-3B9:2261+1 3BA-3BB:2264+1 3BC-3C0:2267+1 3C1:2270 3C2:2273.20.19 3C3-3C4:2273+4 3C5-3C8:2278+1
3C9:227D 3CF:2264.20.A;2255.20.4;2262.20.4 3D0-3D1:2256.20.4+B 3D2:2278.20.A 3D5:2279.20.4
3D6:226B.20.4 3D7:2264.20.4;2255.20.4;2262.20.4 3D8:226F.20.8 3D9:226F 3DA:225D.20.8 3DB:225D
3DC:225B.20.8 3DD:225B 3DE:226E.20.8 3DF:226E 3E0:227F.20.8 3E1:227F 3E2:22A1.20.8 3E3:22A1
3E4:22A6.20.8 3E5:22A6 3E6:22A7.20.8 3E7:22A7 3E8:22AA.20.8 3E9:22AA 3EA:22B1.20.8 3EB:22B1
3EC:22B4.20.8 3ED:22B4 3EE:22B8.20.8 3EF:22B8 3F0-3F1:2264.20.4+C 3F2:2273.20.4 3F3:2263
3F4:2261.20.A 3F5:225A.20.4 3F6:6A2 3F7:2281.20.8 3F8:2281 3F9:2273.20.A 3FA:226D.20.8
3FB-3FC:226D+5 3FD:2275.20.8 3FE-3FF:2274.20.8+2 402:22CB.20.8 404-405:22D0.20.8+A 406:22E2.20.8
408-409:22E5.20.8+10 40A-40B:2303.20.8+13 40F:2337.20.8 410-411:22BE.20.8+3 412-413:22C2.20.8+1
414-415:22C8.20.8+7 416-417:22D1.20.8+4 418:22E0.20.8 41A-41B:22E7.20.8+8 41C-41D:22F9.20.8+3
41E-41F:2305.20.8+2 420-422:230B.20.8+3 423-424:2317.20.8+5 425-426:231D.20.8+C
427-428:232E.20.8+A 429-42A:233A.20.8+4 42B-42C:2340.20.8+1 42D-42E:2345.20.8+1 42F:2349.20.8
430-431:22BE+3 432-433:22C2+1 434-435:22C8+7 436-437:22D1+4 438:22E0 43A-43B:22E7+8 43C-43D:22F9+3
43E-43F:2305+2 440-442:230B+3 443-444:2317+5 445-446:231D+C 447-448:232E+A 449-44A:233A+4
44B-44C:2340+1 44D-44E:2345+1 44F:2349 452:22CB 454-455:22D0+A 456:22E2 458-459:22E5+10
45A-45B:2303+13 45F:2337 460:2324.20.8 461:2324 462:2343.20.8 463:2343 464:234B.20.8 465:234B
466:234C.20.8 467:234C 468:2350.20.8 469:2350 46A:234E.20.8 46B:234E 46C:2352.20.8 46D:2352
46E:2353.20.8 46F:2353 470:2354.20.8 471:2354 472:2355.20.8 473:2355 474:2356.20.8 475:2356
478:231B.20.8 479:231B 47A:2328.20.8 47B:2328 47C:2327.20.8 47D:2327 47E:2325.20.8 47F:2325
480:230A.20.8 481:230A 482:557 483:0.50 484:0.33 485:0.23 486:0.22 487:0.33 488-489: 48A:22E1.20.8
48B:22E1 48C:2342.20.8 48D:2342 48E:230C.20.8 48F:230C 490:22C3.20.A;0.11D.4 491:22C3.20.4;0.11D.4
492:22C4.20.8 493:22C4 494:22C6.20.8 495:22C6 496:22D4.20.8 497:22D4 498:22CE.20.8 499:22CE
49A:22E8.20.8 49B:22E8 49C:22EC.20.8 49D:22EC 49E:22EB.20.8 49F:22EB 4A0:22EA.20.8 4A1:22EA
4A2:22FF.20.8 4A3:22FF 4A4:2302.20.8 4A5:2302 4A6:2309.20.8 4A7:2309 4A8:2358.20.8 4A9:2358
4AA:2310.20.8 4AB:2310 4AC:2314.20.8 4AD:2314 4AE:2318.20.8 4AF:2318 4B0:2319.20.8 4B1:2319
4B2:2320.20.8 4B3:2320 4B4:232C.20.8 4B5:232C 4B6:2331.20.8 4B7:2331 4B8:2333.20.8 4B9:2333
4BA:2321.20.8 4BB:2321 4BC:2335.20.8 4BD:2335 4BE:2336.20.8 4BF:2336 4C0:235A.20.8 4C3:22E9.20.8
4C4:22E9 4C5:22F1.20.8 4C6:22F1 4C7:2300.20.8 4C8:2300 4C9:22FE.20.8 4CA:22FE 4CB:2332.20.8
4CC:2332 4CD:22FA.20.8 4CE-4CF:22FA+60 4D4:22C0.20.8 4D5:22C0 4D8:22BF.20.8 4D9:22BF 4E0:22DC.20.8
4E1:22DC 4E8:2306.20.8 4E9:2306 4F6:22C7.20.8 4F7:22C7 4FA:22C5.20.8 4FB:22C5 4FC:231E.20.8
4FD:231E 4FE:231F.20.8 4FF:231F 500:22C9.20.8 501:22C9 502:22CD.20.8 503:22CD 504:22D7.20.8
505:22D7 506:22DE.20.8 507:22DE 508:22F7.20.8 509:22F7 50A:2304.20.8 50B:2304 50C:230F.20.8
50D:230F 50E:2313.20.8 50F:2313 510:22D8.20.8 511:22D8 512:22F3.20.8 513:22F3 514:22F8.20.8
515:22F8 516:230D.20.8 517:230D 518:234A.20.8 519:234A 51A:22EE.20.8 51B:22EE 51C:2359.20.8
51D:2359 51E:22ED.20.8 51F:22ED 520:22F4.20.8 521:22F4 522:2301.20.8 523:2301 524:2308.20.8
525:2308 526:2322.20.8 527:2322 528:22FD.20.8 529:22FD 52A:22D2.20.8 52B:22D2 52C:232F.20.8
52D:232F 52E:22F2.20.8 52F:22F2 531-532:2407.20.8+2 533-545:240A.20.8+1 546-556:241E.20.8+1
559:242F 55A-55B:3F9+1 55C:26B 55D-55E:22B+48 55F-560:3FB+200D 561-562:2407+2 563-575:240A+1
576-586:241E+1 587:240C.20.4;242A.20.4 588:241D 589:242 58A:20E 58D-58E:558+1 58F:1E70 591-5AF:
5B0:0.52 5B1:0.53 5B2:0.54 5B3:0.55 5B4:0.56 5B5:0.57 5B6:0.58 5B7:0.59 5B8:0.5A 5B9-5BA:0.5B
5BB:0.5C 5BC:0.5F 5BD: 5BE:3FC 5BF:0.60 5C0:3FD 5C1:0.5E 5C2:0.5D 5C3:3FE 5C4-5C5: 5C6:3FF
5C7:0.5A 5D0-5D9:2430+1 5DA:243A.20.19 5DB-5DC:243A+1 5DD:243C.20.19 5DE:243C 5DF:243D.20.19
5E0-5E2:243D+1 5E3:2440.20.19 5E4:2440 5E5:2441.20.19 5E6-5EA:2441+1
5EF:2439.20.4;2434.20.4;2435.20.4;2434.20.4 5F0:2435.20.4;2435.20.4 5F1-5F2:2435.20.4;2439.20.4+4
5F3:32F;0.120 5F4:332;0.124 600-605: 606-607:6BE+2 608:55A 609-60A:3C5+2 60B:1E71 60C-60D:22C+1
60E-60F:55D+1 610-61A: 61B:23C 61C: 61D:2D2 61E-61F:243+31 620:2559 621:2476 627-628:2484+2
629-62B:2496+1 62C-62D:24A1+B 62E-62F:24AD+A 630-631:24B8+E 632-633:24C7+12 634-635:24DA+A
636-637:24E5+5 638-639:24EB+5 63A-63B:24F1+2D 63C-63D:2520+36 63E-63F:2557+1 640: 641-642:24F9+C
643-644:250C+18 645-646:252C+4 647-648:253B+6 649-64A:254F+1 64B:0.6D 64C:0.70 64D:0.73 64E:0.76
64F:0.7A 650:0.7D 651:0.80 652:0.81 653:0.82 654:0.83 655:0.84 656:0.86 657:0.87 658:0.88 659:0.8A
65A:0.8B 65B:0.8C 65C:0.8D 65D:0.8E 65E:0.8F 65F:0.85 660-669:209C+1 66A:3C3 66B-66C:22E+1
66D-66E:3B9+20CC 66F:2504 670:0.98 671:247A 672-673:2479+4 674:2476.20.4 675:2476.20.4;2484.20.4
676:2476.20.4;2541.20.4 677:2476.20.4;2545.20.4 678:2476.20.4;2550.20.4 679-67A:2499+1
67B-67C:2487+14 67D:249C 67E-67F:2488+15 680-681:2489+25 682:24AF 683-684:24A2+1 685:24B0
686-687:24A5+2 688-68D:24B9+1 68E-690:24C0+1 691-699:24C8+1 69A-69C:24DB+1 69D-69E:24E6+2
69F-6A0:24EC+6 6A1-6A2:24FA+1 6A3-6A4:24FD+1 6A5-6A6:2500+1 6A7-6A8:2506+2 6A9-6AC:250D+1
6AD-6AE:2512+1 6AF-6B0:2515+3 6B1-6B4:2519+1 6B5-6B8:2525+1 6B9:2536 6BA-6BB:2531+2 6BC-6BD:2534+1
6BE:253C 6BF:24A6 6C1:253D 6C3-6C4:253E+4 6C5-6CB:2543+1 6CC-6CE:2551+1 6CF-6D0:254B+9
6D1-6D2:2555+9 6D4-6D5:283+22BD 6D6-6DD: 6DE:55F 6DF-6E4: 6E5-6E6:2541.20.4+F 6E7-6E8: 6E9:560
6EA-6ED: 6EE-6EF:24C3+E 6F0-6F9:209C+1 6FA-6FC:24DE+B 6FD-6FE:2476.20.4;0.11D.4+B6 6FF:253F
700:2D3 701-702:284+1 703-708:244+1 709-70A:275+18B 70B-70D:401+1 70F: 710:2562 711:0.99
712-713:2563+1 714:2564.20.4;0.11D.4 715:2566 716-717:2565+2 718-719:2568+1 71A-71B:256B+1
71C:256C.20.4;0.11D.4 71D-71F:256D+1 720-723:2571+1 724:2574.20.19 725-726:2575+1
727:2576.20.4;0.11D.4 728-72C:2578+1 72D-72E:2563.20.4;0.11E.4+1 72F:2566.20.4;0.11E.4 730:0.9A
731:0.9B 732:0.9C 733:0.9D 734:0.9E 735:0.9F 736:0.A0 737:0.A1 738:0.A2 739:0.A3 73A:0.A4 73B:0.A5
73C:0.A6 73D:0.A7 73E:0.A8 73F:0.A9 740: 741:0.33 742:0.34 743-744: 745:0.33 746:0.34 747-74A:
74D-74E:256A+6 74F:2577 750-755:248A+1 756-757:2491+20 758-759:24B2+12 75A-75C:24C5+D
75D-75F:24F5+1 760-761:2502+1 762-763:251D+4 764-765:2522+B 766-767:252E+9 768-769:2538+1 76A:2529
76B-76C:24D3+1 76D:24E0 76E-76F:24B3+1 770:24E1 771:24D5 772:24B5 773-774:247E+1 775-777:255A+1
778-779:254C+1 77A-77B:255F+1 77C-77D:24B6+2C 77E-77F:24E3+2E 780-781:25A1+3 782-783:25A5+1
784-787:25A8+1 788-789:25AE+2 78A-78B:25B1+1 78C-78D:25B4+4 78E-78F:25B9+2 790-791:25BC+4
792-797:25C1+1 798:25B5 799-79A:25A2+1 79B:25B3 79C-79D:25A7+16 79E-79F:25BE+1 7A0-7A1:25B6+1
7A2-7A3:25AC+1 7A4:25BA 7A5-7A6:25AF+19 7A7-7B0:25C9+1 7B1:25C7 7C0-7C9:209C+1 7CA-7E7:25D3+1
7E8-7E9:25DF.20.4;0.11C.4+1 7EA:25E2.20.4;0.11C.4 7EB:0.AA 7EC:0.AB 7ED:0.AC 7EE:0.AD 7EF:0.AE
7F0:0.AF 7F1:0.B0 7F2:0.B1 7F3:0.B2 7F4-7F5:25F1+1 7F6:587 7F7:2D4 7F8-7F9:230+3C 7FA: 7FD:0.34
7FE-7FF:1E72+1 800-817:245C+1 818:0.6A 819:0.6B 81A-81B:2474+1 81C-81D:0.62 81E-820:0.63
821-823:0.64 824-825:0.65 826-827:0.66 828-82A:0.67 82B:0.68 82C:0.69 82D:0.6C 830-83E:24A+1
840-858:2588+1 859-85B:0.34 85E:404 860-86A:257D+1 870-882:2484.20.4 883-884:2476.20.4+CB
885-886:2550.20.4 887:2476.20.4 888-889:575+1FC5 88A-88B:24A4+4A 88C-88D:24EF+30 88E:2561 890-891:
898-89D: 89E-89F:0.82 8A0-8A1:2490+3 8A2-8A3:24A8+45 8A4-8A5:24FF+B 8A6-8A7:252A+5 8A8-8A9:2481+1
8AA-8AB:24D6+78 8AC:2483 8AD:2484.20.4 8AE-8AF:24BF+28 8B0-8B1:2516+34 8B2-8B3:24D7+21 8B4:2514
8B5:250B 8B6-8B7:2494+1 8B8-8B9:249E+3A 8BA:255D 8BB-8BC:24FC+B 8BD:2532 8BE-8BF:2492+D
8C0-8C1:24A0+9 8C2:2523 8C3-8C4:24F3+16 8C5-8C6:24AA+1 8C7:252B 8C8:2517 8C9:2551.20.4 8CA-8E2:
8E3:0.90 8E4:0.77 8E5:0.7B 8E6:0.7E 8E7:0.6F 8E8:0.72 8E9:0.75 8EA-8EF: 8F0:0.6E 8F1:0.71 8F2:0.74
8F3: 8F4:0.78 8F5:0.79 8F6:0.7F 8F7:0.91 8F8:0.92 8F9:0.96 8FA:0.97 8FB:0.94 8FC:0.95 8FD:0.93
8FE:0.7C 8FF:0.89 900-901:0.C3 902:0.C4 903:0.C5 904-906:2810+1 907-90B:2818+1 90C-90D:281E+2
90E-910:2821+1 911-917:2825+1 918-91C:282D+1 91D-920:2834+1 921-922:2839+2 923-928:283C+1
92A-92C:2842+1 92D-92F:2846+1 930:284A 932-933:284B+1 935-939:284D+1 93A-93B:285A+1 93C:0.C2
93D-93E:2852+7 93F-944:285F+1 945-946:2867+2 947-949:286A+2 94A-94D:286F+1 94E:286B 94F:285C
950:280D 951-952: 953:0.25 954:0.24 955:2868 956-957:285D+1 960-961:281D+2 962-963:2865+1
964-965:299+1 966-96F:209C+1 970-971:413+1A3E 972-973:280F+4 974-977:2814+1 978:2838
979-97A:2832+17 97B-97C:282C+7 97D:2853 97E-97F:283A+B 980:2873 981:0.C3 982:0.C4 983:0.C5
985-98B:2874+1 98C:287C 98F-990:287E+1 993-9A8:2880+1 9AA-9B0:2896+1 9B2:289E 9B6-9B9:28A0+1
9BC:0.C2 9BD-9C4:28A4+1 9C7-9C8:28AE+1 9CD:28B2 9CE:2891.20.4;28B2.20.4 9D7:28B3 9E0-9E1:287B+2
9E2-9E3:28AC+1 9E6-9EF:209C+1 9F0-9F1:289D+2 9F2-9F3:1E74+1 9F4-9F9:1EA3+1 9FA-9FB:588+18EE
9FC:28B4 9FD:422 9FE:0.C6 A01:0.C3 A02:0.C4 A03:0.C5 A05-A06:28BA+1 A07-A08:28BF+1 A09-A0A:28B7+1
A0F:28C1 A10:28BC A13-A14:28B9+4 A15-A28:28C5+1 A2A-A2F:28D9+1 A30:28E0 A32:28E1 A35:28E2
A38-A39:28C2+1 A3C:0.C2 A3E-A42:28E4+1 A47-A48:28E9+1 A4B-A4D:28EB+1 A51:28C4 A5C:28E3
A66-A6F:209C+1 A70:0.C7 A71:0.C8 A72:28BE A73:28B6 A74-A75:28B5+2A A76:423 A81:0.C3 A82:0.C4
A83:0.C5 A85-A8B:28EF+1 A8C-A8D:28F7+2 A8F-A91:28FA+1 A93-A9C:28FD+1 A9D-AA8:2908+1 AAA-AB0:2914+1
AB2-AB3:291B+6 AB5-AB9:291C+1 ABC:0.C2 ABD-AC4:2922+1 AC5:292C AC7-AC9:292D+1 ACB-ACD:2930+1
AD0:28EE AE0-AE1:28F6+2 AE2-AE3:292A+1 AE6-AEF:209C+1 AF0-AF1:424+1A53 AF9:2907 AFA:0.81 AFB:0.80
AFC:0.82 AFD-AFF:0.C2 B01:0.C3 B02:0.C4 B03:0.C5 B05-B0B:2933+1 B0C:293B B0F-B10:293D+1
B13-B28:293F+1 B2A-B2F:2955+1 B30:295C B32-B33:295D+1 B35-B36:295F+2 B37-B39:2962+1 B3C:0.C2
B3D-B44:2965+1 B47:296F B4D:2973 B55:0.33 B56-B57:2974+1 B5F:295B B60-B61:293A+2 B62-B63:296D+1
B66-B6F:209C+1 B70-B71:589+23D7 B72-B77:1EA9+1 B82:0.C4 B83:2983 B85-B8A:2977+1 B8E-B90:297D+1
B92-B93:2980+1 B95:2984 B99-B9A:2985+1 B9C:2996 B9E-B9F:2987+1 BA3-BA4:2989+1 BA8-BA9:298B+A
BAA:298C BAE-BB0:298D+1 BB1:2994 BB2-BB3:2990+3 BB4:2992 BB5-BB6:2991+6 BB7-BB9:2998+1
BBE-BC2:299B+1 BC6-BC8:29A0+1 BCD:29A6 BD0:2976 BD7:29A7 BE6-BEF:209C+1 BF0-BF2:1EB5+1
BF3-BF8:58A+1 BF9:1E79 BFA:590 C00-C01:0.C3 C02:0.C4 C03:0.C5 C04:0.C4 C05-C0B:29A8+1 C0C:29B0
C0E-C10:29B2+1 C12-C1A:29B5+1 C1B-C1C:29BF+1 C1D-C28:29C2+1 C2A-C32:29CE+1 C33-C34:29DC+1
C35-C39:29D7+1 C3C:0.C2 C3D-C44:29DF+1 C46-C47:29E9+1 C4A-C4D:29EC+1 C55-C56:29F0+1 C58-C59:29BE+3
C5A:29DE C5D:29CD.20.4;29EF.20.4 C60-C61:29AF+2 C62-C63:29E7+1 C66-C6F:209C+1 C77-C78:425+1C77
C79-C7B:209D+1 C7C-C7E:209D+1 C7F-C80:5AA+247F C81:0.C3 C82:0.C4 C83:0.C5 C84-C85:426+25CC
C86-C8B:29F3+1 C8C:29FA C8E-C90:29FC+1 C92-CA8:29FF+1 CAA-CB2:2A16+1 CB3:2A24 CB5-CB9:2A1F+1
CBC:0.C2 CBD-CBE:2A26+4 CBF:2A2B CC1-CC4:2A2D+1 CC6:2A33 CCC-CCD:2A38+1 CD5-CD6:2A3A+1
CDD:2A15.20.4;2A39.20.4 CDE:2A25 CE0-CE1:29F9+2 CE2-CE3:2A31+1 CE6-CEF:209C+1 CF1-CF2:2A27+1
CF3:0.C4 D00:0.C4 D01:0.C3 D02:0.C4 D03:0.C5 D04:2A74 D05-D08:2A3C+1 D09-D0B:2A41+1 D0C:2A45
D0E-D10:2A47+1 D12-D30:2A4A+1 D31:2A71 D32-D33:2A69+6 D34:2A70 D35-D39:2A6A+1 D3A:2A72
D3B-D3C:2A85.20.4 D3D-D3E:2A73+2 D3F-D44:2A76+1 D46-D48:2A7E+1 D4D:2A85 D4E:2A68.20.4;2A85.20.4
D4F:5AB D54-D55:2A66.20.4;2A85.20.4+1 D56:2A70.20.4;2A85.20.4 D57:2A84 D58-D5E:1ECD+1
D5F-D60:2A40+4 D61-D62:2A46+36 D63:2A7D D66-D6F:209C+1 D70-D78:1ED4+1 D79:5AC
D7A-D7B:2A5B.20.4;2A85.20.4+5 D7C-D7D:2A68.20.4;2A85.20.4+1 D7E:2A6F.20.4;2A85.20.4
D7F:2A4D.20.4;2A85.20.4 D81:0.C3 D82:0.C4 D83:0.C5 D85-D96:2A86+1 D9A-DB1:2A98+1 DB3-DBB:2AB0+1
DBD:2AB9 DC0-DC6:2ABA+1 DCA:2AD2 DCF-DD4:2AC1+1 DD6:2AC7 DD8-DD9:2AC8+4 DDB:2ACE DDF:2ACA
DE6-DEF:209C+1 DF2-DF3:2AC9+2 DF4:427 E01-E3A:305E+1 E3F-E40:1E7E+121A E41-E45:3099+1 E46:1E52
E47:0.D4 E48:0.D5 E49:0.D6 E4A:0.D7 E4B:0.D8 E4C:0.D9 E4D:0.DA E4E:0.D3 E4F-E50:428+1C74
E51-E59:209D+1 E5A-E5B:429+1 E81-E82:309F+1 E84:30A1 E86-E89:30A2+1 E8A:30A7 E8C-E8D:30A8+3
E8E-E8F:30A9+3 E90-EA3:30AD+1 EA5:30C1 EA7-EA9:30C2+1 EAA-EAB:30A6+1F EAC-EBD:30C6+1
EC0-EC4:30D8+1 EC6:1E53 EC8:0.DC EC9:0.DD ECA:0.DE ECB:0.DF ECC:0.E0 ECD:0.E1 ECE:0.DB
ED0-ED9:209C+1 EDC:30C5.20.4;30B6.20.4 EDD:30C5.20.4;30BE.20.4 EDE-EDF:309E+C
F00:3166.20.4;317D.20.4;0.C4.4 F01-F03:5B4+1 F04-F0A:42D+1 F0B:436 F0C:436.20.1B F0D-F12:437+1
F13:5B7 F14-F15:260+358 F16-F17:5B9+1 F18-F19: F1A-F1F:5BB+1 F20-F29:209C+1 F2A-F32:209D.20.4+1
F33:209C.20.4 F34:5C1 F35: F36:5C2 F37: F38:5C3 F39:0.E4 F3A-F3D:33B+1 F3E-F3F: F40-F41:3120+3
F42:3125 F44-F47:3127+2 F49-F4C:312F+2 F4E-F51:3137+2 F53-F56:313F+2 F58-F5B:3147+2 F5D-F62:314F+2
F63-F68:315C+2 F6A:3159.20.4;0.11D.4 F6B-F6C:3122+39 F71-F72:3170+1 F74:3175 F77:3178
F79-F7D:317A+1 F7E:0.C4 F7F:0.C5 F80:3173 F82-F83:0.C3 F84:317F F85:43D F86-F87: F88-F89:3168+2
F8A-F8B:316E+1 F8C:316C F8D-F8F:3169+2 F90-F91:3121+3 F92:3126 F94-F97:3128+2 F99-F9C:3130+2
F9E-FA1:3138+2 FA3-FA6:3140+2 FA8-FAB:3148+2 FAD-FB2:3150+2 FB3-FB8:315D+2
FBA-FBB:3150.20.4;0.11D.4+8 FBC:315A.20.4;0.11D.4 FBE-FC5:5C4+1 FC6: FC7-FCC:5CC+1 FCE-FCF:5D2+1
FD0-FD1:434+1 FD2-FD4:43E+1 FD5-FD8:5D4+1 FD9-FDA:441+1 1000-1002:33B6+2 1003-1004:33BE+3
1005-1006:33C3+3 1007-1008:33CA+5 1009-100A:33D6+4 100B-100D:33DB+2 100E-100F:33E2+3
1010-1012:33E9+1 1013-1014:33EE+3 1015-1016:33F5+1 1017-1019:33FC+3 101A-101B:3404+2
101C-101D:340A+2 101E-101F:3413+2 1020-1021:341B+7 1022-1025:3423+1 1027-102A:342C+1
102B:3430.20.4 102C-102D:3430+4 102E-102F:3436+2 1030-1031:343B+5 1032:3444 1033-1034:3437+10
1035:3442 1036:0.C4 1037:0.E8 1038:0.C5 1039-103A:344C+1 103B-103D:3405+4 103E:3418
103F:3413.20.4;344C.20.4;3413.20.4 1040-1049:209C+1 104A-104B:2A4+1 104C-104F:458+1
1050-1051:3410+1 1052-1055:3428+1 1056-1059:343C+1 105A-105B:33C2+E 105C-105D:341D+1
105E-105F:33F4+F 1060:340B 1061-1062:33D4+74 1063-1064:344E+1 1065-1066:3412+F 1067-1068:3449+1
1069-106D:3450+1 106E-106F:33E6+39 1070-1071:3420+15 1072-1073:3432+7 1074:343A 1075-1077:33B7+2
1078-1079:33C4+9 107A-107B:33D7+15 107C-107D:33F2+5 107E-107F:33F8+5 1080-1081:340F+7
1082-1083:340E+23 1084-1085:3441+2 1086-1087:3446+F 1088-1089:3457+3 108A:345B 108B-108C:3456+2
108D:3459 108E-108F:33FA+62 1090-1099:209C+1 109A-109B:345D+1 109C-109D:3433+12 109E-109F:5DA+1
10A0-10A6:23B2.20.8+2 10A7-10AC:23C2.20.8+2 10AD-10B2:23D0.20.8+2 10B3-10BE:23DE.20.8+2
10BF-10C0:23F8.20.8+2 10C1-10C3:23C0.20.8+E 10C4-10C5:23F6.20.8+6 10C7:23FF.20.8 10CD:2404.20.8
10D0-10D6:23B1+2 10D7-10DC:23C1+2 10DD-10E2:23CF+2 10E3-10EE:23DD+2 10EF-10F0:23F7+2
10F1-10F3:23BF+E 10F4-10F5:23F5+6 10F6-10F7:23FD+1 10F8-10FA:2400+1 10FB:2D5 10FC:23CB.20.14
10FD-10FE:2403+2 10FF-1100:2406+1C05 1101-115E:400C+1 115F-11A7:4087+1 11A8-11FF:40E7+1
1200-120F:262C+1 1210-121F:263D+1 1220-122F:2654+1 1230-1237:2665+1 1238-123F:2674+1
1240-1248:267D+1 124A-124B:2687+1 124C-124D:268A+2 1250-1256:268D+1 1258:2694 125A-125D:2695+1
1260-1267:2699+1 1268-1277:26A8+1 1278-127F:26B9+1 1280-1288:26C2+1 128A-128D:26CB+1
1290-1297:26CF+1 1298-129F:26D8+1 12A0-12A7:26E1+1 12A8-12B0:26EA+1 12B2-12B3:26F4+1
12B4-12B5:26F7+2 12B8-12BE:26FA+1 12C0:2702 12C2-12C3:2704+1 12C4-12C5:2707+2 12C8-12D6:270A+1
12D8-12DF:2719+1 12E0-12F7:2728+1 12F8-12FF:2747+1 1300-1307:2750+1 1308-1310:2759+1
1312-1313:2763+1 1314-1315:2766+2 1318-131F:2769+1 1320-1327:2775+1 1328-132F:277E+1
1330-1337:278E+1 1338-133F:2797+1 1340-134F:27A6+1 1350-1357:27BC+1 1358-135A:27CB+1 135D:0.B5
135E:0.B4 135F:0.B3 1360:2D6 1361-1362:259+2D 1363-1366:25A+1 1367-1368:276+61 1369-1371:209D+1
1372-137C:1EDD+1 1380-1382:264D+2 1383-1384:2652+4F 1385-1386:26A3+2 1387-1388:26A6+110
1389-138A:27B8+2 138B-138C:27BB+9 138D-138E:27C6+2 138F:27C9 1390-1399:519+1 13A0-13F5:3764.20.8+1
13F8-13FD:37B4+1 1400-1401:20F+35CF 1402-157B:37DF+1 157C:398B 157D-157E:3959+2 157F-158D:395C+1
158E-1595:396C+1 1596-15A6:397A+1 15A7-166C:398C+1 166D:5D8 166E-166F:289+36D1 1670-1671:396B+9
1672-1676:3975+1 1677-167F:3A52+1 1680:209.20.4 1681-169A:3AB1+1 169B-169C:33F+1 16A0:3ACB
16A1:3ACB.20.4;0.11C.4 16A2-16A3:3ACC+24 16A4:3ACC.20.4;0.11C.4 16A5:3ACC.20.4;0.11D.4 16A6:3ACD
16A7:3ACD.20.4;0.11C.4 16A8:3ACE 16A9:3ACE.20.4;0.11C.4 16AA-16AB:3AEC+2 16AC:3ACE.20.4;0.11D.4
16AD:3ACE.20.4;0.11E.4 16AE:3ACE.20.4;0.11F.4 16AF-16B2:3AD0+1 16B3:3AD3.20.4;0.11C.4
16B4:3AD3.20.4;0.11D.4 16B5:3AD3.20.4;0.11E.4 16B6:3AD3.20.4;0.11F.4 16B7-16B8:3AD5+1E
16B9-16BA:3AD6+1 16BB:3AD7.20.4;0.11C.4 16BC:3AD7.20.4;0.11D.4 16BD:3AD7.20.4;0.11E.4 16BE:3AD8
16BF:3AD8.20.4;0.11C.4 16C0:3AD8.20.4;0.11D.4 16C1:3AD9 16C2:3AD9.20.4;0.11C.4 16C3:3ADB
16C4:3ADB.20.4;0.11C.4 16C5:3ADC 16C6:3ADC.20.4;0.11C.4 16C7-16CA:3ADD+1 16CB:3AE0.20.4;0.11C.4
16CC:3AE0.20.4;0.11E.4 16CD:3AE0.20.4;0.11F.4 16CE:3AE0.20.4;0.120.4 16CF:3AE2
16D0:3AE2.20.4;0.11C.4 16D1:3AE2.20.4;0.11D.4 16D2:3AE3 16D3:3AE3.20.4;0.11C.4
16D4:3AE3.20.4;0.11D.4 16D5:3ADE.20.4;0.11C.4 16D6-16D7:3AE4+2 16D8:3AE6.20.4;0.11C.4
16D9:3AE6.20.4;0.11D.4 16DA:3AE7 16DB:3AE7.20.4;0.11C.4 16DC:3AE8 16DD:3AE8.20.4;0.11C.4
16DE-16DF:3AE9+1 16E0-16E1:3AF1+4 16E2:3AF6 16E3-16E4:3AF2+2 16E5-16E6:3AF7+1
16E7:3AF8.20.4;0.11C.4 16E8:3AF8.20.4;0.11D.4 16E9:3AD6.20.4;0.11C.4 16EA:3AE0.20.4;0.11D.4
16EB-16ED:264+1 16EE:3ADC.20.4;3AE7.20.4 16EF:3AE6.20.4;0.11C.4;3AE6.20.4;0.11C.4
16F0:3ACD.20.4;3ACD.20.4 16F1-16F2:3AD4+D 16F3:3AEB 16F4-16F6:3ACF+B 16F7-16F8:3AED+2
1700-170D:32CD+1 170E-1715:32DC+1 171F-1720:32DB+9 1721-1734:32E5+1 1735-1736:2A1+1
1740-1753:32F9+1 1760-176C:330D+1 176E-1770:331A+1 1772-1773:331D+1 1780-17A2:34BF+1
17A3-17B3:34E3+1 17B4-17B5: 17B6-17C5:34F4+1 17C6:0.C4 17C7:0.C5 17C8:0.E9 17C9:0.EA 17CA:0.EB
17CB-17D1:0.33 17D2:3504 17D3: 17D4-17D5:2A6+1 17D6-17D7:261+1BF3 17D8-17DA:45C+1
17DB-17DC:1E7F+1663 17DD:0.33 17E0-17E9:209C+1 17F0-17F9:209C+1 1800:405 1801:282 1802-1803:231+56
1804-1805:25E+1 1806-1807:211+1 1808-1809:232+56 180A-180F: 1810-1819:209C+1 1820-1821:36C4+2
1822-1823:36C9+6 1824-1825:36D1+3 1826-1827:36D6+3 1828-1829:36DA+1 182A-182B:36E0+2
182C-182D:36E5+2 182E-182F:36EC+2 1830-1831:36EF+1 1832-1834:36F7+3 1835-1836:3703+4
1837-1839:370A+2 183A-183B:3711+5 183C-183D:3717+3 183E-183F:371E+3 1840-1842:3722+1
1843-1844:36C3+4 1845-1846:36CA+6 1847-1848:36D2+3 1849-184B:36D7+5 184C-184D:36E3+3
184E-184F:36E8+5 1850-1852:36F8+3 1853-1854:3704+14 1855-1857:3708+5 1858-1859:371C+3
185A-185B:3725+1 185C:3701 185D-185F:36C8+3 1860:36D8 1861-1862:36D3+A 1863:3713 1864-1865:36E9+2
1866-1867:36E4+D 1868-1869:36F9+3 186A-186B:3705+A 186C-186D:371D+3 186E-186F:3719+2 1870:3727
1871-1872:36FF+A 1873-1874:36CC+48 1875-1876:370B+5 1877:3706 1878:3700 1880-1886:36BC+1
1887-1888:36C5+8 1889:3715 188A-188B:36DE+24 188C-188D:3728+2 188E-188F:372B+2 1890-1891:372E+3
1892-1893:3733+1 1894-1896:3736+2 1897:373B 1898-1899:372F+A 189A:36EA 189B-189C:36DF+13
189D-189E:36F3+36 189F-18A0:372C+4 18A1:3732 18A2-18A3:36F4+43 18A4-18A5:36F5+1 18A6-18A7:373C+1
18A8-18A9:3735+A 18AA:373E 18B0-18F5:3A5B+1 1900-191C:329B+1 191D:32A3.20.4;32C1.20.4
191E:32A6.20.4;32C2.20.4 1920-192B:32B8+1 1930-1938:32C4+1 1939:0.F4 193A:0.F5 193B:0.F6 1940:5D9
1944-1945:26D+A 1946-194F:209C+1 1950-196D:3505+1 1970-1974:3523+1 1980-19AB:3528+1
19B0-19C9:3554+1 19D0-19D9:209C+1 19DA:209D 19DE:3544.20.4;355A.20.4
19DF:3544.20.4;355A.20.4;3565.20.4 19E0-19FF:5E0+1 1A00-1A1B:331F+1 1A1E-1A1F:2D8+1
1A20-1A4C:356E+1 1A4D-1A52:35A3+1 1A53:359B 1A54:3594.20.4;35BA.20.4;3594.20.4 1A55-1A57:359D+1
1A58-1A59:3574.20.4 1A5A-1A5B:3589.20.4 1A5C-1A5E:35A0+1 1A60:35BA 1A61-1A62:35A9+2 1A63:35AC
1A64:35AC.20.4 1A65-1A6A:35AD+1 1A6B-1A6C:359C+E 1A6D:35B9 1A6E-1A6F:35B3+1 1A70-1A72:35B6+1
1A73:35B5 1A74:0.C4 1A75:0.EC 1A76:0.ED 1A77:0.EE 1A78:0.EF 1A79:0.F0 1A7A:0.F1 1A7B:0.F2
1A7C:0.F3 1A7F: 1A80-1A89:209C+1 1A90-1A99:209C+1 1AA0-1AA6:45F+1 1AA7:1E55 1AA8-1AAB:2A8+1
1AAC-1AAD:466+1 1AB0-1AB4:0.33 1AB5-1ABA:0.34 1ABB-1ABC:0.33 1ABD:0.34 1ABE:0.36
1ABF-1AC0:21FD.20.4+3 1AC1-1AC2:0.33 1AC3-1AC4:0.34 1AC5-1AC9:0.33 1ACA:0.34 1ACB:0.33
1ACC-1ACD:20F7.20.4;0.11D.4+A1 1ACE:21CE.20.4;0.11D.4 1B00-1B01:0.C3 1B02:0.C4 1B03:0.C9 1B04:0.C5
1B05:3600 1B07:3602 1B09:3604 1B0B:3606 1B0D:3608 1B0F-1B11:360A+1 1B13-1B14:360E+3
1B15-1B22:3612+1 1B23-1B27:3621+1 1B28-1B2F:3627+1 1B30-1B32:3630+1 1B33:3635 1B34:0.C2
1B35-1B3A:3636+1 1B3C:363D 1B3E-1B3F:363F+1 1B42:3643 1B44:3645 1B45-1B46:360F+1 1B47-1B48:3620+6
1B49-1B4A:362F+4 1B4B:3634 1B4C:3617.20.4;3645.20.4;3619.20.4 1B50-1B59:209C+1 1B5A-1B5B:2DA+1
1B5C:28A 1B5D-1B5E:262+4A 1B5F:2AD 1B60-1B61:210+3F0 1B62-1B6A:601+1 1B6B-1B73: 1B74-1B7C:60A+1
1B7D-1B7E:2DC+1 1B80:0.C4 1B81:0.CB 1B82:0.C5 1B83-1B8A:2F7B+1 1B8B-1B98:2F84+1 1B99-1B9B:2F93+2
1B9C-1B9D:2F9A+3 1B9E-1B9F:2F9F+1 1BA0:2FA2 1BA1-1BA2:2F96+2 1BA3-1BA4:2F9B+8 1BA5-1BAB:2FA4+1
1BAC-1BAD:2F94+A 1BAE-1BAF:2F83+1E 1BB0-1BB9:209C+1 1BBA:2F7B.20.4 1BBB-1BBC:2F99+3 1BBD:2F92
1BBE-1BBF:2F82.20.19+11 1BC0:3352 1BC1:3352.20.4 1BC2:3353 1BC3-1BC4:3353.20.4 1BC5:3354
1BC6:3354.20.4 1BC7:3355 1BC8:3355.20.4 1BC9:3356 1BCA:3356.20.4 1BCB:3357 1BCC-1BCD:3357.20.4
1BCE:3358 1BCF:3358.20.4 1BD0-1BD2:3359+1 1BD3:335B.20.4 1BD4:335C 1BD5:335C.20.4 1BD6:335D
1BD7:335D.20.4 1BD8:335E 1BD9-1BDA:335E.20.4 1BDB:335F 1BDC:335F.20.4 1BDD-1BDE:3360+1
1BDF:3361.20.4 1BE0-1BE5:3362+1 1BE6:0.C2 1BE7:3368 1BE8:3368.20.4 1BE9-1BEA:3369+1 1BEB:336A.20.4
1BEC:336B 1BED:336B.20.4 1BEE:336C 1BEF:336C.20.4 1BF0-1BF3:336D+1 1BFC-1BFF:473+1
1C00-1C09:322D+1 1C0A-1C1A:323A+1 1C1B-1C1C:324C+2 1C1D-1C23:324F+1 1C24-1C25:324B+2
1C26-1C35:3257+1 1C36:3256 1C37:0.C2 1C3B-1C3C:29D+1 1C3D-1C3F:455+1 1C40-1C49:209C+1
1C4D-1C4F:3237+1 1C50-1C59:209C+1 1C5A-1C7D:3740+1 1C7E-1C7F:2D0+1 1C80-1C81:22C2.20.4+6
1C82-1C83:2305.20.4+9 1C84-1C85:2311.20.4 1C86-1C87:233E.20.4+5 1C88:231A.20.4
1C90-1C96:23B1.20.8+2 1C97-1C9C:23C1.20.8+2 1C9D-1CA2:23CF.20.8+2 1CA3-1CAE:23DD.20.8+2
1CAF-1CB0:23F7.20.8+2 1CB1-1CB3:23BF.20.8+E 1CB4-1CB5:23F5.20.8+6 1CB6-1CB7:23FD.20.8+1
1CB8-1CBA:2400.20.8+1 1CBD-1CBE:2403.20.8+2 1CBF:2406.20.8 1CC0-1CC7:468+1 1CD0-1CE8: 1CE9:2854
1CEA-1CEC:2854.20.4 1CED:0.C4 1CEE-1CF1:2854.20.4 1CF2-1CF3:0.C5 1CF4: 1CF5-1CF6:2855+1 1CF7-1CF9:
1CFA:2854.20.4 1D00-1D01:20A7+4 1D02-1D03:20AC+C 1D04-1D05:20C0+A 1D06-1D07:20CB+D
1D08-1D09:20E9+2E 1D0A-1D0B:2121+6 1D0C-1D0D:2134+19 1D0E-1D0F:2158+10 1D10:2176 1D11-1D12:2169+E
1D13:2172 1D14-1D15:216C+18 1D16-1D17:217C+1 1D18-1D19:2186+16 1D1A-1D1B:21A0+2F 1D1C-1D1D:21DD+2
1D1E-1D1F:21E0+10 1D20-1D21:21F5+9 1D22-1D23:2212+B 1D24-1D25:2244+1 1D26-1D27:2258+E
1D28-1D29:226C+5 1D2A-1D2B:227C+74 1D2C:20A6.20.1D 1D2D:20A6.20.14;0.11C.14;20D7.20.14
1D2E:20B4.20.1D 1D2F:20B7 1D30-1D31:20C9.20.1D+E 1D32-1D33:20DF.20.1D+18 1D34-1D35:2106.20.1D+C
1D36-1D37:211F.20.1D+7 1D38-1D39:2131.20.1D+1B 1D3A:2155.20.1D 1D3B:2157 1D3C-1D3D:2167.20.1D+1C
1D3E-1D3F:2185.20.1D+13 1D40-1D41:21CE.20.1D+E 1D42:21FD.20.1D 1D43-1D44:20A6.20.14+8
1D45:20AF.20.14 1D46-1D47:20AC.20.14+8 1D48-1D49:20C9.20.14+E 1D4A-1D4B:20E1.20.14+2
1D4C-1D4D:20E9.20.14+E 1D4E-1D4F:2117.20.14+F 1D50-1D51:214C.20.14+17 1D52-1D53:2167.20.14+E
1D54-1D55:217C.20.14+1 1D56-1D57:2185.20.14+49 1D58-1D59:21DC.20.14+3 1D5A-1D5B:21EE.20.14+6
1D5C-1D5D:2245.20.14+11 1D5E-1D5F:2257.20.14+2 1D60-1D61:2279.20.14+1 1D62-1D63:2112.20.15+86
1D64-1D65:21DC.20.15+18 1D66-1D67:2256.20.15+1 1D68-1D69:2270.20.15+9 1D6A:227A.20.15 1D6B:21E1
1D6C-1D6D:20B9+14 1D6E-1D6F:20F2+5C 1D70-1D71:2159+30 1D72-1D73:219E+D 1D74-1D75:21BC+16 1D76:2214
1D77:2101 1D78:22FC.20.14 1D79:20F7.20.4;0.11D.4 1D7A:21CE.20.4;0.11C.4;2106.20.4 1D7B-1D7C:2119+5
1D7D-1D7E:2187+60 1D7F:21F3 1D80-1D81:20BB+13 1D82-1D83:20F3+B 1D84-1D85:2128+17 1D86-1D87:214F+E
1D88-1D89:218A+1B 1D8A-1D8B:21BD+A 1D8C-1D8D:21F7+B 1D8E:2215 1D8F-1D90:20A9+8 1D91-1D92:20D2+A
1D93-1D94:20E4+4 1D95-1D96:20E2+39 1D97-1D98:2179+4F 1D99-1D9A:21E8+38 1D9B-1D9C:20B2.20.14+D
1D9D:20C6.20.14 1D9E:20C9.20.14;0.11C.14 1D9F-1DA0:20E7.20.14+7 1DA1:2124.20.14
1DA2-1DA3:20F9.20.14+F2 1DA4-1DA5:2118.20.14+5 1DA6-1DA7:2114.20.14+5 1DA8-1DA9:2123.20.14+1D
1DAA:213F.20.14 1DAB-1DAC:2132.20.14+1E 1DAD:21F1.20.14 1DAE-1DAF:215A.20.14+4
1DB0-1DB1:2156.20.14+29 1DB2-1DB3:218F.20.14+2F 1DB4-1DB5:21C5.20.14+E 1DB6-1DB7:21E4.20.14+E
1DB8-1DB9:21DD.20.14+1B 1DBA-1DBB:21FC.20.14+15 1DBC-1DBD:2217.20.14+1 1DBE-1DBF:221C.20.14+45
1DC0-1DC1:0.33 1DC2:0.34 1DC3-1DC9:0.33 1DCA:2198.20.4 1DCB-1DCE:0.33 1DCF-1DD0:0.34 1DD1:0.33
1DD2:222F.20.4 1DD3:20A6.20.4;0.11C.4 1DD4:20A6.20.4;0.11C.4;20D7.20.4 1DD5:20A6.20.4;2167.20.4
1DD6:20A6.20.4;21F4.20.4 1DD7:20BF.20.4;0.30.4 1DD8:20C9.20.4;0.11D.4 1DD9:20C9.20.4;0.11C.4
1DDA-1DDB:20F7.20.4+5 1DDC-1DDD:2126.20.4+B 1DDE-1DDF:2132.20.4+1B 1DE0-1DE1:2155.20.4+1
1DE2:219A.20.4 1DE3:2198.20.4;0.11E.4 1DE4:21B9.20.4 1DE5:21B9.20.4;0.11D.4 1DE6:2211.20.4
1DE7-1DE8:20AF.20.4+5 1DE9-1DEA:20BE.20.4+23 1DEB-1DEC:20EE.20.4+4B 1DED:2167.20.4;0.34.4
1DEE-1DEF:2185.20.4+40 1DF0:21DC.20.4;0.34.4 1DF1:21FD.20.4 1DF2-1DF3:20A6.20.4;0.2B.4+C1
1DF4:21DC.20.4;0.2B.4 1DF5-1DF8:0.33 1DF9-1DFA:0.34 1DFB:0.33 1DFC-1DFD:0.34 1DFE:0.33 1DFF:0.34
1E9A:20A6.20.4;223D.20.4 1E9C-1E9D:21C3+1 1E9E:21B9.20.A;0.11C.4;21B9.20.A 1E9F:20D6
1EFA:2131.20.A;2131.20.A 1EFB:2131.20.4;2131.20.4 1EFC:21FB.20.8 1EFD:21FB 1EFE:220E.20.8
1EFF:220E 1FBD:4DF 1FBF-1FC0:4DF+2 1FFE:4E0 2002-2006:209.20.4 2007:209.20.1B 2008-200A:209.20.4
200B-200F: 2010:213 2011:213.20.1B 2012-2015:214+1 2016:3A9 2017:20C 2018:32F;0.11C 2019:32F;0.11D
201A:32F;0.11E 201B:32F;0.11F 201C:332;0.11C 201D:332;0.11D 201E:332;0.11E 201F:332;0.11F
2020-2021:3C8+1 2022-2023:3CE+1 2024:281.20.4 2025:281.20.4;281.20.4
2026:281.20.4;281.20.4;281.20.4 2027:3D0 2028-2029:207+1 202A-202E: 202F:209.20.1B 2030-2031:3C4+2
2032:3D4 2033:3D4.20.4;3D4.20.4 2034:3D4.20.4;3D4.20.4;3D4.20.4 2035:3D5 2036:3D5.20.4;3D5.20.4
2037:3D5.20.4;3D5.20.4;3D5.20.4 2038:3D8 2039-203A:330+1 203B:3D9 203C:268.20.4;268.20.4 203D:27F
203E-203F:20A+1D0 2040-2041:3DC+2 2042:3DF 2043-2044:3D1+2E6 2045-2046:341+1
2047:26F.20.4;26F.20.4 2048:26F.20.4;268.20.4 2049:268.20.4;26F.20.4 204A:3BF 204B-204C:3B2+20
204D:3D3 204E:3B7 204F-2050:23D+1A0 2051-2052:3B8+2FB 2053-2054:21A+1C1 2055-2056:310+1
2057:3D4.20.4;3D4.20.4;3D4.20.4;3D4.20.4 2058-205E:312+1 205F:209.20.4 2060-2064: 2066-206F:
2070-2071:209C.20.14+76 2074-2079:20A0.20.14+1 207A-207B:6A7.20.14+B 207C:6AC.20.14
207D-207E:335.20.14+1 207F:2155.20.14 2080-2089:209C.20.15+1 208A-208B:6A7.20.15+B 208C:6AC.20.15
208D-208E:335.20.15+1 2090-2091:20A6.20.15+31 2092-2093:2167.20.15+9A 2094-2095:20E1.20.15+25
2096-2097:2126.20.15+B 2098-2099:214C.20.15+9 209A-209B:2185.20.15+34 209C:21CE.20.15
20A0-20A6:1E81+1 20A7:2185.20.A;21CE.20.4;21B9.20.4 20A8:1EA1 20A9-20B9:1E88+1 20BA-20C0:1E9A+1
20D0:0.10E 20D1:0.10F 20D2-20D3:0.110 20D4:0.111 20D5:0.112 20D6:0.113 20D7:0.114 20D8-20DA:0.35
20DB:0.115 20DC:0.116 20DD-20E0:0.36 20E1:0.117 20E2-20E4:0.36 20E5:0.35 20E6:0.118 20E7:0.119
20E8:0.11A 20E9:0.11B 20EA-20EB:0.35 20EC-20EF:0.34 20F0:0.33 2100:20A6.20.4;3BB.20.4;20BF.20.4
2101:20A6.20.4;3BB.20.4;21B9.20.4 2102:20BF.20.B 2103:556.20.4;20BF.20.A 2104:617
2105:20BF.20.4;3BB.20.4;2167.20.4 2106:20BF.20.4;3BB.20.4;21DC.20.4 2107:20E3.20.A 2108:618
2109:556.20.4;20EE.20.A 210A:20F7.20.5 210B-210D:2106.20.B 210E:2106.20.5 210F:2106;0.39
2110-2111:2112.20.B 2112:2131.20.B 2113:2131.20.5 2114:619 2115:2155.20.B 2116:2155.20.A;2167.20.4
2117-2118:61A+1 2119-211A:2185.20.B+C 211B-211D:2198.20.B 211E-211F:61C+1
2120:21B9.20.14;214C.20.14 2121:21CE.20.A;20D7.20.A;2131.20.A 2122:21CE.20.14;214C.20.14 2123:61E
2124:2211.20.B 2125:61F 2127:620 2128:2211.20.B 2129:621 212C-212D:20B4.20.B+B 212E:622
212F:20D7.20.5 2130-2131:20D7.20.B+17 2132:20F5.20.8 2133:214C.20.B 2134:2167.20.5
2135-2138:2430.20.4+1 2139:2112.20.5 213A:623 213B:20EE.20.A;20A6.20.A;2201.20.A 213C:226B.20.5
213D:2257.20.5 213E-213F:2257.20.B+14 2140:6A6.20.5 2141-2144:624+1 2145:20C9.20.B
2146-2147:20C9.20.5+E 2148-2149:2112.20.5+D 214A-214B:628+11A 214C:629
214D:20A6.20.A;3BB.20.4;21B9.20.A 214E:20F5 214F:62A 2150:209D.20.1E;6B7.20.1E;20A3.20.1E
2151:209D.20.1E;6B7.20.1E;20A5.20.1E 2152:209D.20.1E;6B7.20.1E;209D.20.1E;209C.20.1E
2153-2154:209D.20.1E;6B7.20.1E;209F.20.1E+1 2155-2158:209D.20.1E;6B7.20.1E;20A1.20.1E+1
2159-215A:209D.20.1E;6B7.20.1E;20A2.20.1E+4 215B-215E:209D.20.1E;6B7.20.1E;20A4.20.1E+2
215F:209D.20.1E;6B7.20.1E 2160:2112.20.A 2161:2112.20.A;2112.20.A
2162:2112.20.A;2112.20.A;2112.20.A 2163:2112.20.A;21F4.20.A 2164:21F4.20.A
2165:21F4.20.A;2112.20.A 2166:21F4.20.A;2112.20.A;2112.20.A
2167:21F4.20.A;2112.20.A;2112.20.A;2112.20.A 2168:2112.20.A;2201.20.A 2169:2201.20.A
216A:2201.20.A;2112.20.A 216B:2201.20.A;2112.20.A;2112.20.A 216C:2131.20.A 216D-216E:20BF.20.A+A
216F:214C.20.A 2170:2112.20.4 2171:2112.20.4;2112.20.4 2172:2112.20.4;2112.20.4;2112.20.4
2173:2112.20.4;21F4.20.4 2174:21F4.20.4 2175:21F4.20.4;2112.20.4
2176:21F4.20.4;2112.20.4;2112.20.4 2177:21F4.20.4;2112.20.4;2112.20.4;2112.20.4
2178:2112.20.4;2201.20.4 2179:2201.20.4 217A:2201.20.4;2112.20.4
217B:2201.20.4;2112.20.4;2112.20.4 217C:2131.20.4 217D-217E:20BF.20.4+A 217F:214C.20.4
2180-2182:1EE8+1 2183:20C7.20.8 2184:20C7 2185:20A2 2186-2188:1EEB+1
2189:209C.20.1E;6B7.20.1E;209F.20.1E 218A-218B:62B+1 2190-2191:62D+2 2192-2193:62E+2
2194-2199:631+1 219C-21AD:637+1 21AF-21CC:649+1 21D0-2203:667+1 2205-2208:69B+1 220A-220B:69F+1
220D-220E:6A1+2 220F-2211:6A4+1 2212-2213:6B2+2 2214-2215:6B5+1 2216-221B:6B8+1 221C-221D:6BF+2
221E-2223:6C2+1 2225:6C8 2227-222B:6C9+1 222C:6CD.20.4;6CD.20.4 222D:6CD.20.4;6CD.20.4;6CD.20.4
222E:6CE 222F:6CE.20.4;6CE.20.4 2230:6CE.20.4;6CE.20.4;6CE.20.4 2231-2240:6CF+1 2242-2243:6DF+1
2245-2246:6E1+1 2248:6E3 224A-225F:6E4+1 2261:6FA 2263-226C:6FB+1 2272-2273:705+1 2276-2277:707+1
227A-227F:709+1 2282-2283:70F+1 2286-2287:711+1 228A-22AB:713+1 22B0-22BC:735+1 22BD-22DF:743+1
22E4-22E9:766+1 22EE-2307:76C+1 2308-230B:343+1 230C-2328:786+1 232B-2426:7A3+1 2440-244A:89F+1
2460-2468:209D.20.6+1 2469:209D.20.6;209C.20.6 246A:209D.20.6;209D.20.6 246B:209D.20.6;209E.20.6
246C:209D.20.6;209F.20.6 246D:209D.20.6;20A0.20.6 246E:209D.20.6;20A1.20.6
246F:209D.20.6;20A2.20.6 2470:209D.20.6;20A3.20.6 2471:209D.20.6;20A4.20.6
2472:209D.20.6;20A5.20.6 2473:209E.20.6;209C.20.6 2474:335.20.4;209D.20.4;336.20.4
2475:335.20.4;209E.20.4;336.20.4 2476:335.20.4;209F.20.4;336.20.4 2477:335.20.4;20A0.20.4;336.20.4
2478:335.20.4;20A1.20.4;336.20.4 2479:335.20.4;20A2.20.4;336.20.4 247A:335.20.4;20A3.20.4;336.20.4
247B:335.20.4;20A4.20.4;336.20.4 247C:335.20.4;20A5.20.4;336.20.4
247D:335.20.4;209D.20.4;209C.20.4;336.20.4 247E:335.20.4;209D.20.4;209D.20.4;336.20.4
247F:335.20.4;209D.20.4;209E.20.4;336.20.4 2480:335.20.4;209D.20.4;209F.20.4;336.20.4
2481:335.20.4;209D.20.4;20A0.20.4;336.20.4 2482:335.20.4;209D.20.4;20A1.20.4;336.20.4
2483:335.20.4;209D.20.4;20A2.20.4;336.20.4 2484:335.20.4;209D.20.4;20A3.20.4;336.20.4
2485:335.20.4;209D.20.4;20A4.20.4;336.20.4 2486:335.20.4;209D.20.4;20A5.20.4;336.20.4
2487:335.20.4;209E.20.4;209C.20.4;336.20.4 2488-2490:209D.20.4;281.20.4+1
2491:209D.20.4;209C.20.4;281.20.4 2492:209D.20.4;209D.20.4;281.20.4
2493:209D.20.4;209E.20.4;281.20.4 2494:209D.20.4;209F.20.4;281.20.4
2495:209D.20.4;20A0.20.4;281.20.4 2496:209D.20.4;20A1.20.4;281.20.4
2497:209D.20.4;20A2.20.4;281.20.4 2498:209D.20.4;20A3.20.4;281.20.4
2499:209D.20.4;20A4.20.4;281.20.4 249A:209D.20.4;20A5.20.4;281.20.4
249B:209E.20.4;209C.20.4;281.20.4 249C:335.20.4;20A6.20.4;336.20.4
249D:335.20.4;20B4.20.4;336.20.4 249E:335.20.4;20BF.20.4;336.20.4 249F:335.20.4;20C9.20.4;336.20.4
24A0:335.20.4;20D7.20.4;336.20.4 24A1:335.20.4;20EE.20.4;336.20.4 24A2:335.20.4;20F7.20.4;336.20.4
24A3:335.20.4;2106.20.4;336.20.4 24A4:335.20.4;2112.20.4;336.20.4 24A5:335.20.4;211F.20.4;336.20.4
24A6:335.20.4;2126.20.4;336.20.4 24A7:335.20.4;2131.20.4;336.20.4 24A8:335.20.4;214C.20.4;336.20.4
24A9:335.20.4;2155.20.4;336.20.4 24AA:335.20.4;2167.20.4;336.20.4 24AB:335.20.4;2185.20.4;336.20.4
24AC:335.20.4;2191.20.4;336.20.4 24AD:335.20.4;2198.20.4;336.20.4 24AE:335.20.4;21B9.20.4;336.20.4
24AF:335.20.4;21CE.20.4;336.20.4 24B0:335.20.4;21DC.20.4;336.20.4 24B1:335.20.4;21F4.20.4;336.20.4
24B2:335.20.4;21FD.20.4;336.20.4 24B3:335.20.4;2201.20.4;336.20.4 24B4:335.20.4;220A.20.4;336.20.4
24B5:335.20.4;2211.20.4;336.20.4 24B6-24B7:20A6.20.C+E 24B8-24B9:20BF.20.C+A
24BA-24BB:20D7.20.C+17 24BC-24BD:20F7.20.C+F 24BE-24BF:2112.20.C+D 24C0-24C1:2126.20.C+B
24C2-24C3:214C.20.C+9 24C4-24C5:2167.20.C+1E 24C6-24C7:2191.20.C+7 24C8-24C9:21B9.20.C+15
24CA-24CB:21DC.20.C+18 24CC-24CD:21FD.20.C+4 24CE-24CF:220A.20.C+7 24D0-24D1:20A6.20.6+E
24D2-24D3:20BF.20.6+A 24D4-24D5:20D7.20.6+17 24D6-24D7:20F7.20.6+F 24D8-24D9:2112.20.6+D
24DA-24DB:2126.20.6+B 24DC-24DD:214C.20.6+9 24DE-24DF:2167.20.6+1E 24E0-24E1:2191.20.6+7
24E2-24E3:21B9.20.6+15 24E4-24E5:21DC.20.6+18 24E6-24E7:21FD.20.6+4 24E8-24E9:220A.20.6+7
24EA:209C.20.6 24EB:209D.20.6;209D.20.6 24EC:209D.20.6;209E.20.6 24ED:209D.20.6;209F.20.6
24EE:209D.20.6;20A0.20.6 24EF:209D.20.6;20A1.20.6 24F0:209D.20.6;20A2.20.6
24F1:209D.20.6;20A3.20.6 24F2:209D.20.6;20A4.20.6 24F3:209D.20.6;20A5.20.6
24F4:209E.20.6;209C.20.6 24F5-24FD:209D.20.6+1 24FE:209D.20.6;209C.20.6 24FF:209C.20.6
2500-25FF:8AA+1 2600-262F:A74+1 2630-2637:102F+1 2638-266C:AA4+1 266D-266F:12F6+1 2670-2689:AD9+1
268A-268F:1029+1 2690-26FF:AF3+1 2700-2720:B7D+1 2721-2767:BA0+1 2768-2775:36B+1
2776-277E:209D.20.6+1 277F:209D.20.6;209C.20.6 2780-2788:209D.20.6+1 2789:209D.20.6;209C.20.6
278A-2792:209D.20.6+1 2793:209D.20.6;209C.20.6 2794-27C4:BE7+1 27C5-27C6:35F+1 27C7-27E5:C18+1
27E6-27EF:361+1 27F0-27FF:C37+1 2800-28FF:F29+1 2900-2982:C47+1 2983-2998:349+1 2999-29D7:CCA+1
29D8-29DB:3AB+1 29DC-29FB:D09+1 29FC-29FD:347+1 29FE-2A0B:D29+1
2A0C:6CD.20.4;6CD.20.4;6CD.20.4;6CD.20.4 2A0D-2A73:D37+1 2A74:241.20.4;241.20.4;6AC.20.4
2A75:6AC.20.4;6AC.20.4 2A76:6AC.20.4;6AC.20.4;6AC.20.4 2A77-2ADB:D9E+1 2ADD-2B73:E03+1
2B76-2B95:E9A+1 2B97-2BFF:EBA+1 2C00-2C2F:235B.20.8+1 2C30-2C5F:235B+1 2C60:2137.20.8 2C61:2137
2C62-2C63:2138.20.8+4F 2C64:21A7.20.8 2C65-2C66:20A8+129 2C67:210B.20.8 2C68:210B 2C69:212A.20.8
2C6A:212A 2C6B:221A.20.8 2C6C:221A 2C6D-2C6E:20AF.20.8+A1 2C6F-2C70:20AE.20.8+4 2C71:21F9
2C72:21FF.20.8 2C73:21FF 2C74:21FA 2C75:210C.20.8 2C76-2C77:210C+84 2C78-2C79:20DE+C6 2C7A:217E
2C7B:20E0 2C7C:211F.20.15 2C7D:21F4.20.1D 2C7E-2C7F:21C1.20.8+58 2C80:2282.20.8 2C81:2282
2C82:2283.20.8 2C83:2283 2C84:2284.20.8 2C85:2284 2C86:2285.20.8 2C87:2285 2C88:2286.20.8
2C89:2286 2C8A:2288.20.8 2C8B:2288 2C8C:2289.20.8 2C8D:2289 2C8E:228A.20.8 2C8F:228A
2C90:228B.20.8 2C91:228B 2C92:228C.20.8 2C93:228C 2C94:228D.20.8 2C95:228D 2C96:228F.20.8
2C97:228F 2C98:2290.20.8 2C99:2290 2C9A:2291.20.8 2C9B:2291 2C9C:2294.20.8 2C9D:2294
2C9E:2295.20.8 2C9F:2295 2CA0:2296.20.8 2CA1:2296 2CA2:2297.20.8 2CA3:2297 2CA4:2298.20.8
2CA5:2298 2CA6:2299.20.8 2CA7:2299 2CA8:229A.20.8 2CA9:229A 2CAA:229B.20.8 2CAB:229B
2CAC:229C.20.8 2CAD:229C 2CAE:229D.20.8 2CAF:229D 2CB0:229E.20.8 2CB1:229E 2CB2:22B9.20.8
2CB3:22B9 2CB4:22BA.20.8 2CB5:22BA 2CB6:2287.20.8 2CB7:2287 2CB8:228E.20.8 2CB9:228E
2CBA:2292.20.8 2CBB:2292 2CBC:2293.20.8 2CBD:2293 2CBE:229F.20.8 2CBF:229F 2CC0:22A0.20.8
2CC1:22A0 2CC2:22A3.20.8 2CC3:22A3 2CC4:22A4.20.8 2CC5:22A4 2CC6:22A5.20.8 2CC7:22A5
2CC8:22A9.20.8 2CC9:22A9 2CCA:22AB.20.8 2CCB:22AB 2CCC:22AC.20.8 2CCD:22AC 2CCE:22AD.20.8
2CCF:22AD 2CD0:22AE.20.8 2CD1:22AE 2CD2:22AF.20.8 2CD3:22AF 2CD4:22B0.20.8 2CD5:22B0
2CD6:22B3.20.8 2CD7:22B3 2CD8:22B5.20.8 2CD9:22B5 2CDA:22B6.20.8 2CDB:22B6 2CDC:22B7.20.8
2CDD:22B7 2CDE:22BB.20.8 2CDF:22BB 2CE0:22BC.20.8 2CE1:22BC 2CE2:22BD.20.8 2CE3:22BD
2CE4:228D.20.4;2282.20.4;228C.20.4 2CE5-2CEA:F23+1 2CEB:22A2.20.8 2CEC:22A2 2CED:22B2.20.8
2CEE:22B2 2CEF:0.33 2CF0:0.23 2CF1:0.22 2CF2:22A8.20.8 2CF3:22A8 2CF9:28B 2CFA-2CFB:278+1
2CFC-2CFD:31E+1BE6 2CFE-2CFF:28C+93 2D00-2D06:23B2+2 2D07-2D0C:23C2+2 2D0D-2D12:23D0+2
2D13-2D1E:23DE+2 2D1F-2D20:23F8+2 2D21-2D23:23C0+E 2D24-2D25:23F6+6 2D27:23FF 2D2D:2404
2D30-2D3B:25F3+1 2D3C-2D53:2600+1 2D54-2D65:2619+1 2D66-2D67:25FF+19 2D6F:262B 2D70:470 2D7F:
2D80-2D81:263C+17 2D82-2D83:2664+9 2D84-2D85:267C+2B 2D86-2D87:26B8+9 2D88-2D8A:26D7+9
2D8B-2D8C:2721+1F 2D8D-2D8E:274F+9 2D8F-2D90:277D+9 2D91-2D92:2796+34 2D93-2D96:2771+1
2DA0-2DA6:27CE+1 2DA8-2DAE:27D5+1 2DB0-2DB6:27DC+1 2DB8-2DBE:27E3+1 2DC0-2DC6:27EA+1
2DC8-2DCE:27F1+1 2DD0-2DD6:27F9+2 2DD8-2DDE:2806+1 2DE0-2DE2:22C1.20.4+1 2DE3-2DE4:22C8.20.4+9
2DE5-2DE6:22D5.20.4+12 2DE7-2DE8:22EF.20.4+A 2DE9-2DEA:22FC.20.4+9 2DEB-2DEC:2307.20.4+4
2DED-2DEE:230E.20.4+3 2DEF-2DF0:231D.20.4+C 2DF1-2DF2:232E.20.4+A 2DF3-2DF4:233A.20.4+1B
2DF5:230E.20.4;2311.20.4 2DF6-2DF7:22BE.20.4+11 2DF8-2DF9:22E6.20.4+34 2DFA-2DFB:2343.20.4+3
2DFC-2DFD:2348.20.4+4 2DFE-2DFF:234E.20.4+4 2E00-2E01:3E0+1 2E02-2E05:379+1 2E06-2E08:3E2+1
2E09-2E0A:37D+1 2E0B:3E5 2E0C-2E0D:37F+1 2E0E-2E16:3E6+1 2E17-2E18:21C+64 2E19-2E1A:320+CF
2E1B:3F0 2E1C-2E1D:381+1 2E1E-2E1F:3F1+1 2E20-2E29:383+1 2E2A-2E2D:319+1 2E2E-2E2F:271+20CB
2E30-2E31:28D+A 2E32-2E33:226+72 2E34-2E35:225+19 2E36-2E38:3CA+1 2E39:3B0 2E3A-2E3B:218+1
2E3C-2E3D:28E+8F 2E3E-2E3F:3AA+A 2E40-2E41:21D+A 2E42:332;0.120 2E43-2E44:21B+1D8 2E45-2E48:3F4+1
2E49-2E4A:240+17D 2E4B:3CD 2E4C-2E4D:228+18B 2E4E-2E4F:229+1 2E50-2E51:B9E+1 2E52:3C0
2E53-2E54:26A+8 2E55-2E5C:38D+1 2E5D:21E 2E80:FB40.20.4;CE36.0.0;0.11C.4
2E81:FB40.20.4;D382.0.0;0.11C.4 2E82:FB40.20.4;CE5B.0.0 2E83:FB40.20.4;CE5A.0.0
2E84:FB40.20.4;CE59.0.0;0.11C.4 2E85:FB40.20.4;CEBB.0.0 2E86:FB40.20.4;D182.0.0;0.11C.4
2E87:FB40.20.4;D1E0.0.0;0.11C.4 2E88:FB40.20.4;D200.0.0;0.11C.4 2E89:FB40.20.4;D202.0.0
2E8A:FB40.20.4;D35C.0.0;0.11C.4 2E8B:FB40.20.4;D369.0.0;0.11C.4 2E8C:FB40.20.4;DC0F.0.0;0.11C.4
2E8D:FB40.20.4;DC0F.0.0;0.11D.4 2E8E:FB40.20.4;DC22.0.0;0.11C.4 2E8F:FB40.20.4;DC23.0.0
2E90:FB40.20.4;DC22.0.0 2E91:FB40.20.4;DC23.0.0;0.11C.4 2E92:FB40.20.4;DDF3.0.0
2E93:FB40.20.4;DE7A.0.0 2E94:FB40.20.4;DF51.0.0 2E95:FB40.20.4;DF50.0.0;0.11C.4
2E96:FB40.20.4;DFC4.0.0 2E97:FB40.20.4;DFC3.0.0;0.11C.4 2E98:FB40.20.4;E24C.0.0
2E99:FB40.20.4;E535.0.0 2E9B:FB40.20.4;E5E1.0.0 2E9C:FB40.20.4;E5E5.0.0;0.11C.4
2E9D:FB40.20.4;E708.0.0;0.11C.4 2E9E:FB40.20.4;EB7A.0.0;0.11C.4 2E9F:FB40.20.4;EBCD.0.0
2EA0:FB40.20.4;EC11.0.0 2EA1:FB40.20.4;EC35.0.0 2EA2:FB40.20.4;EC3A.0.0 2EA3:FB40.20.4;F06C.0.0
2EA4:FB40.20.4;F22B.0.0 2EA5:FB40.20.4;F22B.0.0;0.11C.4 2EA6:FB40.20.4;CE2C.0.0
2EA7:FB40.20.4;F25B.0.0;0.11C.4 2EA8:FB40.20.4;F2AD.0.0 2EA9:FB40.20.4;F38B.0.0;0.11C.4
2EAA:FB40.20.4;F58B.0.0;0.11C.4 2EAB:FB40.20.4;F6EE.0.0;0.11C.4 2EAC:FB40.20.4;F93A.0.0;0.11C.4
2EAD:FB40.20.4;F93B.0.0 2EAE:FB40.20.4;FAF9.0.0;0.11C.4 2EAF:FB40.20.4;FCF9.0.0
2EB0:FB40.20.4;FE9F.0.0 2EB1:FB40.20.4;FF53.0.0 2EB2:FB40.20.4;FF52.0.0
2EB3:FB40.20.4;FF53.0.0;0.11C.4 2EB4:FB40.20.4;FF53.0.0;0.11D.4 2EB5:FB40.20.4;FF52.0.0;0.11C.4
2EB6:FB40.20.4;FF8A.0.0;0.11C.4 2EB7:FB40.20.4;FF8A.0.0;0.11D.4 2EB8:FB40.20.4;FF8B.0.0
2EB9:FB41.20.4;8002.0.0 2EBA:FB41.20.4;8080.0.0 2EBB:FB41.20.4;807F.0.0;0.11C.4
2EBC:FB41.20.4;8089.0.0;0.11C.4 2EBD:FB41.20.4;81FC.0.0;0.11C.4 2EBE:FB41.20.4;8279.0.0
2EBF:FB41.20.4;8279.0.0;0.11C.4 2EC0:FB41.20.4;8279.0.0;0.11D.4 2EC1:FB41.20.4;864E.0.0
2EC2:FB41.20.4;8864.0.0 2EC3:FB41.20.4;8980.0.0 2EC4:FB41.20.4;897F.0.0 2EC5:FB41.20.4;89C1.0.0
2EC6:FB41.20.4;89D2.0.0 2EC7:FB41.20.4;89D2.0.0;0.11C.4 2EC8:FB41.20.4;8BA0.0.0
2EC9:FB41.20.4;8D1D.0.0 2ECA:FB41.20.4;8DB3.0.0;0.11C.4 2ECB:FB41.20.4;8F66.0.0
2ECC:FB41.20.4;8FB6.0.0 2ECD:FB41.20.4;8FB6.0.0;0.11C.4 2ECE:FB41.20.4;8FB6.0.0;0.11D.4
2ECF:FB41.20.4;9091.0.0;0.11C.4 2ED0:FB41.20.4;9485.0.0 2ED1:FB41.20.4;9577.0.0
2ED2:FB41.20.4;9578.0.0 2ED3:FB41.20.4;957F.0.0 2ED4:FB41.20.4;95E8.0.0
2ED5:FB41.20.4;961C.0.0;0.11C.4 2ED6:FB41.20.4;961D.0.0 2ED7:FB41.20.4;96E8.0.0;0.11C.4
2ED8:FB41.20.4;9752.0.0 2ED9:FB41.20.4;97E6.0.0 2EDA:FB41.20.4;9875.0.0 2EDB:FB41.20.4;98CE.0.0
2EDC:FB41.20.4;98DE.0.0 2EDD:FB41.20.4;98DF.0.0 2EDE:FB41.20.4;98E0.0.0;0.11C.4
2EDF:FB41.20.4;98E0.0.0 2EE0:FB41.20.4;9963.0.0 2EE1:FB41.20.4;9996.0.0;0.11C.4
2EE2:FB41.20.4;9A6C.0.0 2EE3:FB41.20.4;9AA8.0.0;0.11C.4 2EE4:FB41.20.4;9B3C.0.0;0.11C.4
2EE5:FB41.20.4;9C7C.0.0 2EE6:FB41.20.4;9E1F.0.0 2EE7:FB41.20.4;9E75.0.0;0.11C.4
2EE8:FB41.20.4;9EA6.0.0 2EE9:FB41.20.4;9EC4.0.0 2EEA:FB41.20.4;9EFE.0.0
2EEB:FB41.20.4;9F4A.0.0;0.11C.4 2EEC:FB41.20.4;9F50.0.0 2EED:FB41.20.4;9F52.0.0;0.11C.4
2EEE:FB41.20.4;9F7F.0.0 2EEF:FB41.20.4;9F8D.0.0;0.11C.4 2EF0:FB41.20.4;9F99.0.0
2EF1:FB41.20.4;9F9C.0.0;0.11C.4 2EF2:FB41.20.4;9F9C.0.0;0.11D.4 2EF3:FB41.20.4;9F9F.0.0
2F00:FB40.20.4;CE00.0.0 2F01:FB40.20.4;CE28.0.0 2F02:FB40.20.4;CE36.0.0 2F03:FB40.20.4;CE3F.0.0
2F04:FB40.20.4;CE59.0.0 2F05:FB40.20.4;CE85.0.0 2F06:FB40.20.4;CE8C.0.0 2F07:FB40.20.4;CEA0.0.0
2F08:FB40.20.4;CEBA.0.0 2F09:FB40.20.4;D13F.0.0 2F0A:FB40.20.4;D165.0.0 2F0B:FB40.20.4;D16B.0.0
2F0C:FB40.20.4;D182.0.0 2F0D:FB40.20.4;D196.0.0 2F0E:FB40.20.4;D1AB.0.0 2F0F:FB40.20.4;D1E0.0.0
2F10:FB40.20.4;D1F5.0.0 2F11:FB40.20.4;D200.0.0 2F12:FB40.20.4;D29B.0.0 2F13:FB40.20.4;D2F9.0.0
2F14:FB40.20.4;D315.0.0 2F15:FB40.20.4;D31A.0.0 2F16:FB40.20.4;D338.0.0 2F17:FB40.20.4;D341.0.0
2F18:FB40.20.4;D35C.0.0 2F19:FB40.20.4;D369.0.0 2F1A:FB40.20.4;D382.0.0 2F1B:FB40.20.4;D3B6.0.0
2F1C:FB40.20.4;D3C8.0.0 2F1D:FB40.20.4;D3E3.0.0 2F1E:FB40.20.4;D6D7.0.0 2F1F:FB40.20.4;D71F.0.0
2F20:FB40.20.4;D8EB.0.0 2F21:FB40.20.4;D902.0.0 2F22:FB40.20.4;D90A.0.0 2F23:FB40.20.4;D915.0.0
2F24:FB40.20.4;D927.0.0 2F25:FB40.20.4;D973.0.0 2F26:FB40.20.4;DB50.0.0 2F27:FB40.20.4;DB80.0.0
2F28:FB40.20.4;DBF8.0.0 2F29:FB40.20.4;DC0F.0.0 2F2A:FB40.20.4;DC22.0.0 2F2B:FB40.20.4;DC38.0.0
2F2C:FB40.20.4;DC6E.0.0 2F2D:FB40.20.4;DC71.0.0 2F2E:FB40.20.4;DDDB.0.0 2F2F:FB40.20.4;DDE5.0.0
2F30:FB40.20.4;DDF1.0.0 2F31:FB40.20.4;DDFE.0.0 2F32:FB40.20.4;DE72.0.0 2F33:FB40.20.4;DE7A.0.0
2F34:FB40.20.4;DE7F.0.0 2F35:FB40.20.4;DEF4.0.0 2F36:FB40.20.4;DEFE.0.0 2F37:FB40.20.4;DF0B.0.0
2F38:FB40.20.4;DF13.0.0 2F39:FB40.20.4;DF50.0.0 2F3A:FB40.20.4;DF61.0.0 2F3B:FB40.20.4;DF73.0.0
2F3C:FB40.20.4;DFC3.0.0 2F3D:FB40.20.4;E208.0.0 2F3E:FB40.20.4;E236.0.0 2F3F:FB40.20.4;E24B.0.0
2F40:FB40.20.4;E52F.0.0 2F41:FB40.20.4;E534.0.0 2F42:FB40.20.4;E587.0.0 2F43:FB40.20.4;E597.0.0
2F44:FB40.20.4;E5A4.0.0 2F45:FB40.20.4;E5B9.0.0 2F46:FB40.20.4;E5E0.0.0 2F47:FB40.20.4;E5E5.0.0
2F48:FB40.20.4;E6F0.0.0 2F49:FB40.20.4;E708.0.0 2F4A:FB40.20.4;E728.0.0 2F4B:FB40.20.4;EB20.0.0
2F4C:FB40.20.4;EB62.0.0 2F4D:FB40.20.4;EB79.0.0 2F4E:FB40.20.4;EBB3.0.0 2F4F:FB40.20.4;EBCB.0.0
2F50:FB40.20.4;EBD4.0.0 2F51:FB40.20.4;EBDB.0.0 2F52:FB40.20.4;EC0F.0.0 2F53:FB40.20.4;EC14.0.0
2F54:FB40.20.4;EC34.0.0 2F55:FB40.20.4;F06B.0.0 2F56:FB40.20.4;F22A.0.0 2F57:FB40.20.4;F236.0.0
2F58:FB40.20.4;F23B.0.0 2F59:FB40.20.4;F23F.0.0 2F5A:FB40.20.4;F247.0.0 2F5B:FB40.20.4;F259.0.0
2F5C:FB40.20.4;F25B.0.0 2F5D:FB40.20.4;F2AC.0.0 2F5E:FB40.20.4;F384.0.0 2F5F:FB40.20.4;F389.0.0
2F60:FB40.20.4;F4DC.0.0 2F61:FB40.20.4;F4E6.0.0 2F62:FB40.20.4;F518.0.0 2F63:FB40.20.4;F51F.0.0
2F64:FB40.20.4;F528.0.0 2F65:FB40.20.4;F530.0.0 2F66:FB40.20.4;F58B.0.0 2F67:FB40.20.4;F592.0.0
2F68:FB40.20.4;F676.0.0 2F69:FB40.20.4;F67D.0.0 2F6A:FB40.20.4;F6AE.0.0 2F6B:FB40.20.4;F6BF.0.0
2F6C:FB40.20.4;F6EE.0.0 2F6D:FB40.20.4;F7DB.0.0 2F6E:FB40.20.4;F7E2.0.0 2F6F:FB40.20.4;F7F3.0.0
2F70:FB40.20.4;F93A.0.0 2F71:FB40.20.4;F9B8.0.0 2F72:FB40.20.4;F9BE.0.0 2F73:FB40.20.4;FA74.0.0
2F74:FB40.20.4;FACB.0.0 2F75:FB40.20.4;FAF9.0.0 2F76:FB40.20.4;FC73.0.0 2F77:FB40.20.4;FCF8.0.0
2F78:FB40.20.4;FF36.0.0 2F79:FB40.20.4;FF51.0.0 2F7A:FB40.20.4;FF8A.0.0 2F7B:FB40.20.4;FFBD.0.0
2F7C:FB41.20.4;8001.0.0 2F7D:FB41.20.4;800C.0.0 2F7E:FB41.20.4;8012.0.0 2F7F:FB41.20.4;8033.0.0
2F80:FB41.20.4;807F.0.0 2F81:FB41.20.4;8089.0.0 2F82:FB41.20.4;81E3.0.0 2F83:FB41.20.4;81EA.0.0
2F84:FB41.20.4;81F3.0.0 2F85:FB41.20.4;81FC.0.0 2F86:FB41.20.4;820C.0.0 2F87:FB41.20.4;821B.0.0
2F88:FB41.20.4;821F.0.0 2F89:FB41.20.4;826E.0.0 2F8A:FB41.20.4;8272.0.0 2F8B:FB41.20.4;8278.0.0
2F8C:FB41.20.4;864D.0.0 2F8D:FB41.20.4;866B.0.0 2F8E:FB41.20.4;8840.0.0 2F8F:FB41.20.4;884C.0.0
2F90:FB41.20.4;8863.0.0 2F91:FB41.20.4;897E.0.0 2F92:FB41.20.4;898B.0.0 2F93:FB41.20.4;89D2.0.0
2F94:FB41.20.4;8A00.0.0 2F95:FB41.20.4;8C37.0.0 2F96:FB41.20.4;8C46.0.0 2F97:FB41.20.4;8C55.0.0
2F98:FB41.20.4;8C78.0.0 2F99:FB41.20.4;8C9D.0.0 2F9A:FB41.20.4;8D64.0.0 2F9B:FB41.20.4;8D70.0.0
2F9C:FB41.20.4;8DB3.0.0 2F9D:FB41.20.4;8EAB.0.0 2F9E:FB41.20.4;8ECA.0.0 2F9F:FB41.20.4;8F9B.0.0
2FA0:FB41.20.4;8FB0.0.0 2FA1:FB41.20.4;8FB5.0.0 2FA2:FB41.20.4;9091.0.0 2FA3:FB41.20.4;9149.0.0
2FA4:FB41.20.4;91C6.0.0 2FA5:FB41.20.4;91CC.0.0 2FA6:FB41.20.4;91D1.0.0 2FA7:FB41.20.4;9577.0.0
2FA8:FB41.20.4;9580.0.0 2FA9:FB41.20.4;961C.0.0 2FAA:FB41.20.4;96B6.0.0 2FAB:FB41.20.4;96B9.0.0
2FAC:FB41.20.4;96E8.0.0 2FAD:FB41.20.4;9751.0.0 2FAE:FB41.20.4;975E.0.0 2FAF:FB41.20.4;9762.0.0
2FB0:FB41.20.4;9769.0.0 2FB1:FB41.20.4;97CB.0.0 2FB2:FB41.20.4;97ED.0.0 2FB3:FB41.20.4;97F3.0.0
2FB4:FB41.20.4;9801.0.0 2FB5:FB41.20.4;98A8.0.0 2FB6:FB41.20.4;98DB.0.0 2FB7:FB41.20.4;98DF.0.0
2FB8:FB41.20.4;9996.0.0 2FB9:FB41.20.4;9999.0.0 2FBA:FB41.20.4;99AC.0.0 2FBB:FB41.20.4;9AA8.0.0
2FBC:FB41.20.4;9AD8.0.0 2FBD:FB41.20.4;9ADF.0.0 2FBE:FB41.20.4;9B25.0.0 2FBF:FB41.20.4;9B2F.0.0
2FC0:FB41.20.4;9B32.0.0 2FC1:FB41.20.4;9B3C.0.0 2FC2:FB41.20.4;9B5A.0.0 2FC3:FB41.20.4;9CE5.0.0
2FC4:FB41.20.4;9E75.0.0 2FC5:FB41.20.4;9E7F.0.0 2FC6:FB41.20.4;9EA5.0.0 2FC7:FB41.20.4;9EBB.0.0
2FC8:FB41.20.4;9EC3.0.0 2FC9:FB41.20.4;9ECD.0.0 2FCA:FB41.20.4;9ED1.0.0 2FCB:FB41.20.4;9EF9.0.0
2FCC:FB41.20.4;9EFD.0.0 2FCD:FB41.20.4;9F0E.0.0 2FCE:FB41.20.4;9F13.0.0 2FCF:FB41.20.4;9F20.0.0
2FD0:FB41.20.4;9F3B.0.0 2FD1:FB41.20.4;9F4A.0.0 2FD2:FB41.20.4;9F52.0.0 2FD3:FB41.20.4;9F8D.0.0
2FD4:FB41.20.4;9F9C.0.0 2FD5:FB41.20.4;9FA0.0.0 2FF0-2FFB:1E14+1 3000:209.20.3 3001-3002:237+5E
3003-3004:3D6+1A6E 3005:1E60 3006:417C.20.4;4192.20.4 3007:209C 3008-3011:395+1 3012-3013:1E45+1
3014-301B:39F+1 301C:21F 301D:332;0.121 301E:332;0.122 301F:332;0.123 3020-3021:1E47+256
3022-3029:209E+1 302A:0.106 302B:0.107 302C:0.108 302D:0.109 302E:0.10A 302F:0.10B
3030-3031:220+1C45 3032:1E65;0.37 3033:1E66 3034:1E66;0.37 3035:1E67 3036:1E45.20.4 3037:1E48
3038:FB40.20.4;D341.0.0 3039:FB40.20.4;D344.0.0 303A:FB40.20.4;D345.0.0 303B:1E61
303C:418F.20.4;417D.20.4 303D-303E:3D7+1A72 303F:1E4A 3041:4170.20.D 3042:4170.20.E 3043:4171.20.D
3044:4171.20.E 3045:4172.20.D 3046:4172.20.E 3047:4174.20.D 3048:4174.20.E 3049:4175.20.D
304A-304B:4175.20.E+1 304D:4177.20.E 304F:4178.20.E 3051:4179.20.E 3053:417A.20.E 3055:417B.20.E
3057:417C.20.E 3059:417D.20.E 305B:417E.20.E 305D:417F.20.E 305F:4180.20.E 3061:4181.20.E
3063:4182.20.D 3064:4182.20.E 3066:4183.20.E 3068:4184.20.E 306A-306F:4185.20.E+1 3072:418B.20.E
3075:418C.20.E 3078:418D.20.E 307B:418E.20.E 307E-3082:418F.20.E+1 3083:4194.20.D 3084:4194.20.E
3085:4196.20.D 3086:4196.20.E 3087:4198.20.D 3088-308D:4198.20.E+1 308E:419E.20.D
308F-3090:419E.20.E+1 3091-3093:41A1.20.E+1 3095-3096:4176.20.D+3 3099:0.37 309A:0.38
309B-309C:4E2+1 309D:1E68 309F:4198.20.16;419A.20.16 30A0:221 30A1:4170.20.F 30A2:4170.20.11
30A3:4171.20.F 30A4:4171.20.11 30A5:4172.20.F 30A6:4172.20.11 30A7:4174.20.F 30A8:4174.20.11
30A9:4175.20.F 30AA-30AB:4175.20.11+1 30AD:4177.20.11 30AF:4178.20.11 30B1:4179.20.11
30B3:417A.20.11 30B5:417B.20.11 30B7:417C.20.11 30B9:417D.20.11 30BB:417E.20.11 30BD:417F.20.11
30BF:4180.20.11 30C1:4181.20.11 30C3:4182.20.F 30C4:4182.20.11 30C6:4183.20.11 30C8:4184.20.11
30CA-30CF:4185.20.11+1 30D2:418B.20.11 30D5:418C.20.11 30D8:418D.20.11 30DB:418E.20.11
30DE-30E2:418F.20.11+1 30E3:4194.20.F 30E4:4194.20.11 30E5:4196.20.F 30E6:4196.20.11
30E7:4198.20.F 30E8-30ED:4198.20.11+1 30EE:419E.20.F 30EF-30F0:419E.20.11+1 30F1-30F3:41A1.20.11+1
30F5-30F6:4176.20.F+3 30FB-30FC:222+1C47 30FD:1E6A 30FF:417A.20.16;4184.20.16 3105-3107:42C2+1
3108-3109:42C6+2 310A-310B:42C9+1 310C-310E:42CC+1 310F-3111:42D1+1 3112-3113:42D5+3
3114-3119:42D9+1 311A-311B:42E2+1 311C-311D:42E5+1 311E-3124:42E8+1 3125-3126:42F0+3
3127-3129:42F4+1 312A-312B:42C7+8 312C-312D:42D4+23 312E:42E5.20.4 312F:42CB 3131-3132:400B.20.4+1
3133:40E9.20.4 3134-3135:400D.20.4+DE 3136:40EC.20.4 3137-3139:400E.20.4+1 313A-313F:40EF.20.4+1
3140:4025.20.4 3141-3143:4011.20.4+1 3144:402C.20.4 3145-314E:4014.20.4+1 314F-3163:4089.20.4+1
3164:4088.20.4 3165-3166:401F.20.4+1 3167-3168:4106.20.4+1 3169-316A:410B.20.4+2
316B-316C:4112.20.4+4 316D:4118.20.4 316E-316F:4027.20.4+F5 3170:411E.20.4 3171-3172:4028.20.4+1
3173-3174:402B.20.4+2 3175-3176:402E.20.4+4 3177-3178:4034.20.4+2 3179-317C:4037.20.4+1
317D-317E:403D.20.4+4 317F-3180:404B.20.4+7 3181-3182:4057.20.4+D9 3183:4131.20.4
3184-3186:4062.20.4+1 3187-3188:40AC.20.4+1 3189-318A:40B0.20.4+9 318B-318C:40BA.20.4+2
318D-318E:40C6.20.4+3 3190-3191:1E4B+1 3192:FB40.20.14;CE00.0.0 3193:FB40.20.14;CE8C.0.0
3194:FB40.20.14;CE09.0.0 3195:FB40.20.14;D6DB.0.0 3196:FB40.20.14;CE0A.0.0
3197:FB40.20.14;CE2D.0.0 3198:FB40.20.14;CE0B.0.0 3199:FB40.20.14;F532.0.0
319A:FB40.20.14;CE59.0.0 319B:FB40.20.14;CE19.0.0 319C:FB40.20.14;CE01.0.0
319D:FB40.20.14;D929.0.0 319E:FB40.20.14;D730.0.0 319F:FB40.20.14;CEBA.0.0
31A0-31A1:42C2.20.4;0.11D.4+1A 31A2:42D2.20.4;0.11D.4 31A3:42CD.20.4;0.11D.4 31A4:42E7
31A5:42E7.20.4;0.11D.4 31A6:42E4 31A7:42E3.20.4;0.11D.4 31A8:42F5.20.4;0.11E.4
31A9-31AA:42E2.20.4;0.11D.4+12 31AB:42F5.20.4;0.11D.4 31AC-31AD:42C5+B
31AE-31AF:42E8.20.4;0.11D.4+2 31B0-31B1:42F1+1 31B2:42EF 31B3:42F4.20.16;0.11D.16
31B4-31B5:42C3.20.19+6 31B6-31B7:42CE.20.19+3 31B8-31BA:42DF+1 31BB:42CD.20.19 31BC-31BD:42D6+1
31BE-31BF:42F8+1 31C0-31E3:1E20+1 31F0-31F1:4178.20.F+4 31F2-31F3:417D.20.F+7
31F4-31F5:4187.20.F+3 31F6-31F9:418B.20.F+1 31FA-31FB:4191.20.F+8 31FC-31FF:419A.20.F+1
3200:335.20.4;400B.20.4;336.20.4 3201:335.20.4;400D.20.4;336.20.4 3202:335.20.4;400E.20.4;336.20.4
3203:335.20.4;4010.20.4;336.20.4 3204:335.20.4;4011.20.4;336.20.4 3205:335.20.4;4012.20.4;336.20.4
3206:335.20.4;4014.20.4;336.20.4 3207:335.20.4;4016.20.4;336.20.4 3208:335.20.4;4017.20.4;336.20.4
3209:335.20.4;4019.20.4;336.20.4 320A:335.20.4;401A.20.4;336.20.4 320B:335.20.4;401B.20.4;336.20.4
320C:335.20.4;401C.20.4;336.20.4 320D:335.20.4;401D.20.4;336.20.4
320E:335.20.4;400B.20.4;4089.20.4;336.20.4 320F:335.20.4;400D.20.4;4089.20.4;336.20.4
3210:335.20.4;400E.20.4;4089.20.4;336.20.4 3211:335.20.4;4010.20.4;4089.20.4;336.20.4
3212:335.20.4;4011.20.4;4089.20.4;336.20.4 3213:335.20.4;4012.20.4;4089.20.4;336.20.4
3214:335.20.4;4014.20.4;4089.20.4;336.20.4 3215:335.20.4;4016.20.4;4089.20.4;336.20.4
3216:335.20.4;4017.20.4;4089.20.4;336.20.4 3217:335.20.4;4019.20.4;4089.20.4;336.20.4
3218:335.20.4;401A.20.4;4089.20.4;336.20.4 3219:335.20.4;401B.20.4;4089.20.4;336.20.4
321A:335.20.4;401C.20.4;4089.20.4;336.20.4 321B:335.20.4;401D.20.4;4089.20.4;336.20.4
321C:335.20.4;4017.20.4;4096.20.4;336.20.4
321D:335.20.4;4016.20.4;4091.20.4;4017.20.4;408D.20.4;40EA.20.4;336.20.4
321E:335.20.4;4016.20.4;4091.20.4;401D.20.4;4096.20.4;336.20.4
3220:335.20.4;FB40.20.4;CE00.0.0;336.20.4 3221:335.20.4;FB40.20.4;CE8C.0.0;336.20.4
3222:335.20.4;FB40.20.4;CE09.0.0;336.20.4 3223:335.20.4;FB40.20.4;D6DB.0.0;336.20.4
3224:335.20.4;FB40.20.4;CE94.0.0;336.20.4 3225:335.20.4;FB40.20.4;D16D.0.0;336.20.4
3226:335.20.4;FB40.20.4;CE03.0.0;336.20.4 3227:335.20.4;FB40.20.4;D16B.0.0;336.20.4
3228:335.20.4;FB40.20.4;CE5D.0.0;336.20.4 3229:335.20.4;FB40.20.4;D341.0.0;336.20.4
322A:335.20.4;FB40.20.4;E708.0.0;336.20.4 322B:335.20.4;FB40.20.4;F06B.0.0;336.20.4
322C:335.20.4;FB40.20.4;EC34.0.0;336.20.4 322D:335.20.4;FB40.20.4;E728.0.0;336.20.4
322E:335.20.4;FB41.20.4;91D1.0.0;336.20.4 322F:335.20.4;FB40.20.4;D71F.0.0;336.20.4
3230:335.20.4;FB40.20.4;E5E5.0.0;336.20.4 3231:335.20.4;FB40.20.4;E82A.0.0;336.20.4
3232:335.20.4;FB40.20.4;E709.0.0;336.20.4 3233:335.20.4;FB40.20.4;F93E.0.0;336.20.4
3234:335.20.4;FB40.20.4;D40D.0.0;336.20.4 3235:335.20.4;FB40.20.4;F279.0.0;336.20.4
3236:335.20.4;FB41.20.4;8CA1.0.0;336.20.4 3237:335.20.4;FB40.20.4;F95D.0.0;336.20.4
3238:335.20.4;FB40.20.4;D2B4.0.0;336.20.4 3239:335.20.4;FB40.20.4;CEE3.0.0;336.20.4
323A:335.20.4;FB40.20.4;D47C.0.0;336.20.4 323B:335.20.4;FB40.20.4;DB66.0.0;336.20.4
323C:335.20.4;FB40.20.4;F6E3.0.0;336.20.4 323D:335.20.4;FB40.20.4;CF01.0.0;336.20.4
323E:335.20.4;FB41.20.4;8CC7.0.0;336.20.4 323F:335.20.4;FB40.20.4;D354.0.0;336.20.4
3240:335.20.4;FB40.20.4;F96D.0.0;336.20.4 3241:335.20.4;FB40.20.4;CF11.0.0;336.20.4
3242:335.20.4;FB41.20.4;81EA.0.0;336.20.4 3243:335.20.4;FB41.20.4;81F3.0.0;336.20.4
3244:FB40.20.6;D54F.0.0 3245:FB40.20.6;DE7C.0.0 3246:FB40.20.6;E587.0.0 3247:FB40.20.6;FB8F.0.0
3248-324F:209D.20.6;209C.20.6+1 3250:2185.20.1D;21CE.20.1D;20D7.20.1D 3251:209E.20.6;209D.20.6
3252:209E.20.6;209E.20.6 3253:209E.20.6;209F.20.6 3254:209E.20.6;20A0.20.6
3255:209E.20.6;20A1.20.6 3256:209E.20.6;20A2.20.6 3257:209E.20.6;20A3.20.6
3258:209E.20.6;20A4.20.6 3259:209E.20.6;20A5.20.6 325A:209F.20.6;209C.20.6
325B:209F.20.6;209D.20.6 325C:209F.20.6;209E.20.6 325D:209F.20.6;209F.20.6
325E:209F.20.6;20A0.20.6 325F:209F.20.6;20A1.20.6 3260-3261:400B.20.6+2 3262-3263:400E.20.6+2
3264-3265:4011.20.6+1 3266-3267:4014.20.6+2 3268-3269:4017.20.6+2 326A-326D:401A.20.6+1
326E-326F:400B.20.6;4089.20.6+2 3270-3271:400E.20.6;4089.20.6+2 3272-3273:4011.20.6;4089.20.6+1
3274-3275:4014.20.6;4089.20.6+2 3276-3277:4017.20.6;4089.20.6+2 3278-327B:401A.20.6;4089.20.6+1
327C:4019.20.6;4089.20.6;40F6.20.6;400B.20.6;4091.20.6
327D:4017.20.6;4096.20.6;4016.20.6;409C.20.6 327E:4016.20.6;4096.20.6 327F:1E4D
3280:FB40.20.6;CE00.0.0 3281:FB40.20.6;CE8C.0.0 3282:FB40.20.6;CE09.0.0 3283:FB40.20.6;D6DB.0.0
3284:FB40.20.6;CE94.0.0 3285:FB40.20.6;D16D.0.0 3286:FB40.20.6;CE03.0.0 3287:FB40.20.6;D16B.0.0
3288:FB40.20.6;CE5D.0.0 3289:FB40.20.6;D341.0.0 328A:FB40.20.6;E708.0.0 328B:FB40.20.6;F06B.0.0
328C:FB40.20.6;EC34.0.0 328D:FB40.20.6;E728.0.0 328E:FB41.20.6;91D1.0.0 328F:FB40.20.6;D71F.0.0
3290:FB40.20.6;E5E5.0.0 3291:FB40.20.6;E82A.0.0 3292:FB40.20.6;E709.0.0 3293:FB40.20.6;F93E.0.0
3294:FB40.20.6;D40D.0.0 3295:FB40.20.6;F279.0.0 3296:FB41.20.6;8CA1.0.0 3297:FB40.20.6;F95D.0.0
3298:FB40.20.6;D2B4.0.0 3299:FB40.20.6;F9D8.0.0 329A:FB40.20.6;F537.0.0 329B:FB40.20.6;D973.0.0
329C:FB41.20.6;9069.0.0 329D:FB40.20.6;D12A.0.0 329E:FB40.20.6;D370.0.0 329F:FB40.20.6;ECE8.0.0
32A0:FB41.20.6;9805.0.0 32A1:FB40.20.6;CF11.0.0 32A2:FB40.20.6;D199.0.0 32A3:FB40.20.6;EB63.0.0
32A4:FB40.20.6;CE0A.0.0 32A5:FB40.20.6;CE2D.0.0 32A6:FB40.20.6;CE0B.0.0 32A7:FB40.20.6;DDE6.0.0
32A8:FB40.20.6;D3F3.0.0 32A9:FB40.20.6;D33B.0.0 32AA:FB40.20.6;DB97.0.0 32AB:FB40.20.6;DB66.0.0
32AC:FB40.20.6;F6E3.0.0 32AD:FB40.20.6;CF01.0.0 32AE:FB41.20.6;8CC7.0.0 32AF:FB40.20.6;D354.0.0
32B0:FB40.20.6;D91C.0.0 32B1:209F.20.6;20A2.20.6 32B2:209F.20.6;20A3.20.6 32B3:209F.20.6;20A4.20.6
32B4:209F.20.6;20A5.20.6 32B5:20A0.20.6;209C.20.6 32B6:20A0.20.6;209D.20.6
32B7:20A0.20.6;209E.20.6 32B8:20A0.20.6;209F.20.6 32B9:20A0.20.6;20A0.20.6
32BA:20A0.20.6;20A1.20.6 32BB:20A0.20.6;20A2.20.6 32BC:20A0.20.6;20A3.20.6
32BD:20A0.20.6;20A4.20.6 32BE:20A0.20.6;20A5.20.6 32BF:20A1.20.6;209C.20.6
32C0-32C8:209D.20.4;FB40.20.4;E708.0.0+1 32C9:209D.20.4;209C.20.4;FB40.20.4;E708.0.0
32CA:209D.20.4;209D.20.4;FB40.20.4;E708.0.0 32CB:209D.20.4;209E.20.4;FB40.20.4;E708.0.0
32CC:2106.20.1D;20F7.20.1C 32CD:20D7.20.1C;2198.20.1C;20F7.20.1C 32CE:20D7.20.1C;21F4.20.1D
32CF:2131.20.1D;21CE.20.1D;20C9.20.1D 32D0-32D2:4170.20.13+1 32D3-32F3:4174.20.13+1
32F4-32F5:4196.20.13+2 32F6-32FC:4199.20.13+1 32FD-32FE:41A1.20.13+1
32FF:FB40.20.1C;CEE4.0.0;FB40.20.1C;D48C.0.0
3300:4170.20.1C;418A.20.1C;0.38.1C;1E69.20.1C;4184.20.1C
3301:4170.20.1C;419B.20.1C;418C.20.1C;4170.20.1C
3302:4170.20.1C;41A3.20.1C;418D.20.1C;0.38.1C;4170.20.1C 3303:4170.20.1C;1E69.20.1C;419B.20.1C
3304:4171.20.1C;4186.20.1C;41A3.20.1C;4178.20.1C;0.37.1C 3305:4171.20.1C;41A3.20.1C;4181.20.1C
3306:4172.20.1C;4175.20.1C;41A3.20.1C
3307:4174.20.1C;417D.20.1C;4178.20.1C;1E69.20.1C;4184.20.1C;0.37.1C
3308:4174.20.1C;1E69.20.1C;4176.20.1C;1E69.20.1C 3309:4175.20.1C;41A3.20.1C;417D.20.1C
330A:4175.20.1C;1E69.20.1C;4191.20.1C 330B:4176.20.1C;4171.20.1C;419A.20.1C
330C:4176.20.1C;4199.20.1C;4182.20.1C;4184.20.1C 330D:4176.20.1C;419D.20.1C;419A.20.1C;1E69.20.1C
330E:4176.20.1C;0.37.1C;419D.20.1C;41A3.20.1C 330F:4176.20.1C;0.37.1C;41A3.20.1C;418F.20.1C
3310:4177.20.1C;0.37.1C;4176.20.1C;0.37.1C 3311:4177.20.1C;0.37.1C;4186.20.1C;1E69.20.1C
3312:4177.20.1C;4196.20.1C;419A.20.1C;1E69.20.1C
3313:4177.20.1C;0.37.1C;419B.20.1C;4180.20.1C;0.37.1C;1E69.20.1C 3314:4177.20.1C;419D.20.1C
3315:4177.20.1C;419D.20.1C;4178.20.1C;0.37.1C;4199.20.1C;4191.20.1C
3316:4177.20.1C;419D.20.1C;4192.20.1C;1E69.20.1C;4184.20.1C;419B.20.1C
3317:4177.20.1C;419D.20.1C;419E.20.1C;4182.20.1C;4184.20.1C
3318:4178.20.1C;0.37.1C;4199.20.1C;4191.20.1C
3319:4178.20.1C;0.37.1C;4199.20.1C;4191.20.1C;4184.20.1C;41A3.20.1C
331A:4178.20.1C;419B.20.1C;417E.20.1C;0.37.1C;4171.20.1C;419D.20.1C
331B:4178.20.1C;419D.20.1C;1E69.20.1C;4188.20.1C 331C:4179.20.1C;1E69.20.1C;417D.20.1C
331D:417A.20.1C;419B.20.1C;4185.20.1C 331E:417A.20.1C;1E69.20.1C;418E.20.1C;0.38.1C
331F:417B.20.1C;4171.20.1C;4178.20.1C;419B.20.1C
3320:417B.20.1C;41A3.20.1C;4181.20.1C;1E69.20.1C;4191.20.1C
3321:417C.20.1C;419A.20.1C;41A3.20.1C;4178.20.1C;0.37.1C 3322:417E.20.1C;41A3.20.1C;4181.20.1C
3323:417E.20.1C;41A3.20.1C;4184.20.1C 3324:4180.20.1C;0.37.1C;1E69.20.1C;417D.20.1C
3325:4183.20.1C;0.37.1C;417C.20.1C 3326:4184.20.1C;0.37.1C;419B.20.1C 3327:4184.20.1C;41A3.20.1C
3328:4185.20.1C;4189.20.1C 3329:4189.20.1C;4182.20.1C;4184.20.1C
332A:418A.20.1C;4171.20.1C;4182.20.1C
332B:418A.20.1C;0.38.1C;1E69.20.1C;417E.20.1C;41A3.20.1C;4184.20.1C
332C:418A.20.1C;0.38.1C;1E69.20.1C;4182.20.1C
332D:418A.20.1C;0.37.1C;1E69.20.1C;419C.20.1C;419B.20.1C
332E:418B.20.1C;0.38.1C;4170.20.1C;417D.20.1C;4184.20.1C;419B.20.1C
332F:418B.20.1C;0.38.1C;4178.20.1C;419B.20.1C 3330:418B.20.1C;0.38.1C;417A.20.1C
3331:418B.20.1C;0.37.1C;419B.20.1C
3332:418C.20.1C;4170.20.1C;4199.20.1C;4182.20.1C;4184.20.1C;0.37.1C
3333:418C.20.1C;4171.20.1C;1E69.20.1C;4184.20.1C
3334:418C.20.1C;0.37.1C;4182.20.1C;417C.20.1C;4174.20.1C;419B.20.1C
3335:418C.20.1C;4199.20.1C;41A3.20.1C 3336:418D.20.1C;4178.20.1C;4180.20.1C;1E69.20.1C;419B.20.1C
3337:418D.20.1C;0.38.1C;417F.20.1C 3338:418D.20.1C;0.38.1C;4186.20.1C;418B.20.1C
3339:418D.20.1C;419B.20.1C;4182.20.1C 333A:418D.20.1C;0.38.1C;41A3.20.1C;417D.20.1C
333B:418D.20.1C;0.38.1C;1E69.20.1C;417C.20.1C;0.37.1C
333C:418D.20.1C;0.37.1C;1E69.20.1C;4180.20.1C
333D:418E.20.1C;0.38.1C;4171.20.1C;41A3.20.1C;4184.20.1C
333E:418E.20.1C;0.37.1C;419B.20.1C;4184.20.1C 333F:418E.20.1C;41A3.20.1C
3340:418E.20.1C;0.38.1C;41A3.20.1C;4184.20.1C;0.37.1C 3341:418E.20.1C;1E69.20.1C;419B.20.1C
3342:418E.20.1C;1E69.20.1C;41A3.20.1C 3343:418F.20.1C;4171.20.1C;4178.20.1C;419D.20.1C
3344:418F.20.1C;4171.20.1C;419B.20.1C 3345:418F.20.1C;4182.20.1C;418A.20.1C
3346:418F.20.1C;419B.20.1C;4178.20.1C 3347:418F.20.1C;41A3.20.1C;417C.20.1C;4198.20.1C;41A3.20.1C
3348:4190.20.1C;4178.20.1C;419D.20.1C;41A3.20.1C 3349:4190.20.1C;419A.20.1C
334A:4190.20.1C;419A.20.1C;418A.20.1C;0.37.1C;1E69.20.1C;419B.20.1C
334B:4192.20.1C;4176.20.1C;0.37.1C 334C:4192.20.1C;4176.20.1C;0.37.1C;4184.20.1C;41A3.20.1C
334D:4192.20.1C;1E69.20.1C;4184.20.1C;419B.20.1C 334E:4194.20.1C;1E69.20.1C;4184.20.1C;0.37.1C
334F:4194.20.1C;1E69.20.1C;419B.20.1C 3350:4196.20.1C;4170.20.1C;41A3.20.1C
3351:419A.20.1C;4182.20.1C;4184.20.1C;419B.20.1C 3352:419A.20.1C;4199.20.1C
3353:419B.20.1C;418B.20.1C;0.38.1C;1E69.20.1C
3354:419B.20.1C;1E69.20.1C;418C.20.1C;0.37.1C;419B.20.1C 3355:419C.20.1C;4191.20.1C
3356:419C.20.1C;41A3.20.1C;4184.20.1C;4179.20.1C;0.37.1C;41A3.20.1C
3357:419E.20.1C;4182.20.1C;4184.20.1C 3358-3361:209C.20.4;FB40.20.4;F0B9.0.0+1
3362:209D.20.4;209C.20.4;FB40.20.4;F0B9.0.0 3363:209D.20.4;209D.20.4;FB40.20.4;F0B9.0.0
3364:209D.20.4;209E.20.4;FB40.20.4;F0B9.0.0 3365:209D.20.4;209F.20.4;FB40.20.4;F0B9.0.0
3366:209D.20.4;20A0.20.4;FB40.20.4;F0B9.0.0 3367:209D.20.4;20A1.20.4;FB40.20.4;F0B9.0.0
3368:209D.20.4;20A2.20.4;FB40.20.4;F0B9.0.0 3369:209D.20.4;20A3.20.4;FB40.20.4;F0B9.0.0
336A:209D.20.4;20A4.20.4;FB40.20.4;F0B9.0.0 336B:209D.20.4;20A5.20.4;FB40.20.4;F0B9.0.0
336C:209E.20.4;209C.20.4;FB40.20.4;F0B9.0.0 336D:209E.20.4;209D.20.4;FB40.20.4;F0B9.0.0
336E:209E.20.4;209E.20.4;FB40.20.4;F0B9.0.0 336F:209E.20.4;209F.20.4;FB40.20.4;F0B9.0.0
3370:209E.20.4;20A0.20.4;FB40.20.4;F0B9.0.0 3371:2106.20.1C;2185.20.1D;20A6.20.1C
3372:20C9.20.1C;20A6.20.1C 3373:20A6.20.1D;21DC.20.1D 3374:20B4.20.1C;20A6.20.1C;2198.20.1C
3375:2167.20.1C;21F4.20.1D 3376:2185.20.1C;20BF.20.1C 3377:20C9.20.1C;214C.20.1C
3378:20C9.20.1C;214C.20.1C;209E.20.1C 3379:20C9.20.1C;214C.20.1C;209F.20.1C
337A:2112.20.1D;21DC.20.1D 337B:FB40.20.1C;DE73.0.0;FB40.20.1C;E210.0.0
337C:FB40.20.1C;E62D.0.0;FB40.20.1C;D48C.0.0 337D:FB40.20.1C;D927.0.0;FB40.20.1C;EB63.0.0
337E:FB40.20.1C;E60E.0.0;FB40.20.1C;ECBB.0.0
337F:FB40.20.1C;E82A.0.0;FB40.20.1C;DF0F.0.0;FB40.20.1C;CF1A.0.0;FB40.20.1C;F93E.0.0
3380:2185.20.1C;20A6.20.1D 3381-3382:2155.20.1C;20A6.20.1D+112 3383:214C.20.1C;20A6.20.1D
3384:2126.20.1C;20A6.20.1D 3385-3386:2126.20.1D;20B4.20.1D+26 3387:20F7.20.1D;20B4.20.1D
3388:20BF.20.1C;20A6.20.1C;2131.20.1C 3389:2126.20.1C;20BF.20.1C;20A6.20.1C;2131.20.1C
338A:2185.20.1C;20EE.20.1D 338B-338C:2155.20.1C;20EE.20.1D+112 338D:2267.20.1C;20F7.20.1C
338E:214C.20.1C;20F7.20.1C 338F:2126.20.1C;20F7.20.1C 3390:2106.20.1D;2211.20.1C
3391:2126.20.1C;2106.20.1D;2211.20.1C 3392:214C.20.1D;2106.20.1D;2211.20.1C
3393-3394:20F7.20.1D;2106.20.1D;2211.20.1C+D7 3395:2267.20.1C;2131.20.1C
3396:214C.20.1C;2131.20.1C 3397-3398:20C9.20.1C;2131.20.1C+5D 3399-339A:20EE.20.1C;214C.20.1C+67
339B:2267.20.1C;214C.20.1C 339C:214C.20.1C;214C.20.1C 339D-339E:20BF.20.1C;214C.20.1C+67
339F:214C.20.1C;214C.20.1C;209E.20.1C 33A0:20BF.20.1C;214C.20.1C;209E.20.1C
33A1:214C.20.1C;209E.20.1C 33A2:2126.20.1C;214C.20.1C;209E.20.1C
33A3:214C.20.1C;214C.20.1C;209F.20.1C 33A4:20BF.20.1C;214C.20.1C;209F.20.1C
33A5:214C.20.1C;209F.20.1C 33A6:2126.20.1C;214C.20.1C;209F.20.1C
33A7:214C.20.1C;6B6.20.1C;21B9.20.1C 33A8:214C.20.1C;6B6.20.1C;21B9.20.1C;209E.20.1C
33A9:2185.20.1D;20A6.20.1C 33AA:2126.20.1C;2185.20.1D;20A6.20.1C
33AB:214C.20.1D;2185.20.1D;20A6.20.1C 33AC:20F7.20.1D;2185.20.1D;20A6.20.1C
33AD:2198.20.1C;20A6.20.1C;20C9.20.1C 33AE:2198.20.1C;20A6.20.1C;20C9.20.1C;6B6.20.1C;21B9.20.1C
33AF:2198.20.1C;20A6.20.1C;20C9.20.1C;6B6.20.1C;21B9.20.1C;209E.20.1C 33B0:2185.20.1C;21B9.20.1C
33B1-33B2:2155.20.1C;21B9.20.1C+112 33B3:214C.20.1C;21B9.20.1C 33B4:2185.20.1C;21F4.20.1D
33B5-33B6:2155.20.1C;21F4.20.1D+112 33B7:214C.20.1C;21F4.20.1D 33B8:2126.20.1C;21F4.20.1D
33B9:214C.20.1D;21F4.20.1D 33BA:2185.20.1C;21FD.20.1D 33BB-33BC:2155.20.1C;21FD.20.1D+112
33BD:214C.20.1C;21FD.20.1D 33BE:2126.20.1C;21FD.20.1D 33BF:214C.20.1D;21FD.20.1D
33C0:2126.20.1C;227D.20.1D 33C1:214C.20.1D;227D.20.1D
33C2:20A6.20.1C;281.20.1C;214C.20.1C;281.20.1C 33C3:20B4.20.1D;2191.20.1C
33C4:20BF.20.1C;20BF.20.1C 33C5:20BF.20.1C;20C9.20.1C
33C6:20BF.20.1D;6B6.20.1C;2126.20.1C;20F7.20.1C 33C7:20BF.20.1D;2167.20.1C;281.20.1C
33C8:20C9.20.1C;20B4.20.1D 33C9:20F7.20.1D;220A.20.1C 33CA:2106.20.1C;20A6.20.1C
33CB:2106.20.1D;2185.20.1D 33CC:2112.20.1C;2155.20.1C 33CD:2126.20.1D;2126.20.1D
33CE:2126.20.1D;214C.20.1D 33CF:2126.20.1C;21CE.20.1C 33D0:2131.20.1C;214C.20.1C
33D1:2131.20.1C;2155.20.1C 33D2:2131.20.1C;2167.20.1C;20F7.20.1C 33D3:2131.20.1C;2201.20.1C
33D4:214C.20.1C;20B4.20.1C 33D5:214C.20.1C;2112.20.1C;2131.20.1C
33D6:214C.20.1C;2167.20.1C;2131.20.1C 33D7:2185.20.1D;2106.20.1D
33D8:2185.20.1C;281.20.1C;214C.20.1C;281.20.1C 33D9:2185.20.1D;2185.20.1D;214C.20.1D
33DA:2185.20.1D;2198.20.1D 33DB:21B9.20.1C;2198.20.1C 33DC:21B9.20.1D;21F4.20.1C
33DD:21FD.20.1D;20B4.20.1C 33DE:21F4.20.1D;6B6.20.1C;214C.20.1C
33DF:20A6.20.1D;6B6.20.1C;214C.20.1C 33E0-33E8:209D.20.4;FB40.20.4;E5E5.0.0+1
33E9:209D.20.4;209C.20.4;FB40.20.4;E5E5.0.0 33EA:209D.20.4;209D.20.4;FB40.20.4;E5E5.0.0
33EB:209D.20.4;209E.20.4;FB40.20.4;E5E5.0.0 33EC:209D.20.4;209F.20.4;FB40.20.4;E5E5.0.0
33ED:209D.20.4;20A0.20.4;FB40.20.4;E5E5.0.0 33EE:209D.20.4;20A1.20.4;FB40.20.4;E5E5.0.0
33EF:209D.20.4;20A2.20.4;FB40.20.4;E5E5.0.0 33F0:209D.20.4;20A3.20.4;FB40.20.4;E5E5.0.0
33F1:209D.20.4;20A4.20.4;FB40.20.4;E5E5.0.0 33F2:209D.20.4;20A5.20.4;FB40.20.4;E5E5.0.0
33F3:209E.20.4;209C.20.4;FB40.20.4;E5E5.0.0 33F4:209E.20.4;209D.20.4;FB40.20.4;E5E5.0.0
33F5:209E.20.4;209E.20.4;FB40.20.4;E5E5.0.0 33F6:209E.20.4;209F.20.4;FB40.20.4;E5E5.0.0
33F7:209E.20.4;20A0.20.4;FB40.20.4;E5E5.0.0 33F8:209E.20.4;20A1.20.4;FB40.20.4;E5E5.0.0
33F9:209E.20.4;20A2.20.4;FB40.20.4;E5E5.0.0 33FA:209E.20.4;20A3.20.4;FB40.20.4;E5E5.0.0
33FB:209E.20.4;20A4.20.4;FB40.20.4;E5E5.0.0 33FC:209E.20.4;20A5.20.4;FB40.20.4;E5E5.0.0
33FD:209F.20.4;209C.20.4;FB40.20.4;E5E5.0.0 33FE:209F.20.4;209D.20.4;FB40.20.4;E5E5.0.0
33FF:20F7.20.1C;20A6.20.1C;2131.20.1C 4DC0-4DFF:1037+1 A000-A48C:42FA+1 A490-A4C6:10CE+1
A4D0-A4E9:478D+1 A4EA:47A9 A4EB-A4EC:47A7+3 A4ED-A4EE:47A8+4 A4EF-A4F7:47AD+1 A4F8-A4FB:4787+1
A4FC:478C A4FD:478B A4FE-A4FF:233+5C A500-A60C:3B4F+1 A60D-A60E:234+5C A60F:27A
A610-A611:3BA7.20.4+12 A612:3BD6.20.4 A613-A614:3B5B.20.4;3C5A.20.4+12 A615:3B82.20.4;3C5A.20.4
A616:3B96.20.4;3C5B.20.4 A617:3BA1.20.4;3C5A.20.4 A618-A619:3BA7.20.4;3C5B.20.4+2
A61A-A61B:3BAF.20.4;3C5A.20.4+25 A61C-A61D:3C03.20.4;3C5A.20.4+17 A61E:3C20.20.4;3C5B.20.4
A61F:3C27.20.4;3C5A.20.4 A620-A629:209C+1 A62A-A62B:3BBD.20.4+63 A640:22D6.20.8 A641:22D6
A642:22D9.20.8 A643:22D9 A644:22DB.20.8 A645:22DB A646:22E3.20.8 A647:22E3 A648:22E6.20.8
A649:22E6 A64A:231A.20.8 A64B:231A A64C:2326.20.8 A64D:2326 A64E:233B.20.8 A64F:233B
A650:233F.20.8 A651:233F A652:2344.20.8 A653:2344 A654:2347.20.8 A655:2347 A656:2348.20.8
A657:2348 A658:234D.20.8 A659:234D A65A:234F.20.8 A65B:234F A65C:2351.20.8 A65D:2351
A65E:2357.20.8 A65F:2357 A660:232A.20.8 A661:232A A662:22CC.20.8 A663:22CC A664:22F6.20.8
A665:22F6 A666:22FB.20.8 A667:22FB A668:2305.20.A A669:2305.20.4 A66A:2305.20.A A66B:2305.20.4
A66C:2305.20.A A66D-A66E:2305.20.4 A66F:0.51 A670-A672: A673:3BA A674-A675:22D0.20.4+10
A676:22E2.20.4;0.2B.4 A677-A678:2317.20.4+27 A679-A67A:2340.20.4+1 A67B:2324.20.4 A67C-A67D:0.33
A67E-A67F:3F8+1F45 A680:22CA.20.8 A681:22CA A682:22DF.20.8 A683:22DF A684:22D3.20.8 A685:22D3
A686:2334.20.8 A687:2334 A688:22DD.20.8 A689:22DD A68A:2315.20.8 A68B:2315 A68C:2312.20.8
A68D:2312 A68E:232B.20.8 A68F:232B A690:232D.20.8 A691:232D A692:2330.20.8 A693:2330
A694:2323.20.8 A695:2323 A696:2339.20.8 A697:2339 A698:2305.20.A A699:2305.20.4 A69A:2305.20.A
A69B:2305.20.4 A69C-A69D:233E.20.14+3 A69E-A69F:231C.20.4+2F A6A0-A6EF:3C5C+1 A6F0:0.B6 A6F1:0.B7
A6F2:2E8 A6F3:291 A6F4:267 A6F5-A6F6:235+A A6F7:27B A700-A721:523+1 A722:223E.20.8 A723:223E
A724:2246.20.8 A725:2246 A726:210E.20.8 A727:210E A728:21CE.20.A;2211.20.4
A729:21CE.20.4;2211.20.4 A72A:2232.20.8 A72B:2232 A72C:2233.20.8 A72D:2233 A72E:2234.20.8
A72F:2234 A730-A731:20EF+CB A732:20A6.20.A;20A6.20.A A733:20A6.20.4;20A6.20.4
A734:20A6.20.A;2167.20.A A735:20A6.20.4;2167.20.4 A736:20A6.20.A;21DC.20.A
A737:20A6.20.4;21DC.20.4 A738:20A6.20.A;21F4.20.A A739:20A6.20.4;21F4.20.4
A73A:20A6.20.A;0.11C.4;21F4.20.A A73B:20A6.20.4;0.11C.4;21F4.20.4 A73C:20A6.20.A;220A.20.A
A73D:20A6.20.4;220A.20.4 A73E:20C8.20.8 A73F:20C8 A740:212B.20.8 A741:212B A742:212C.20.8
A743:212C A744:212D.20.8 A745:212D A746:2133.20.8 A747:2133 A748:2135.20.8 A749:2135
A74A:2180.20.8 A74B:2180 A74C:217B.20.8 A74D:217B A74E:2167.20.A;2167.20.A
A74F:2167.20.4;2167.20.4 A750:2188.20.8 A751:2188 A752:218C.20.8 A753:218C A754:218D.20.8
A755:218D A756:2193.20.8 A757:2193 A758:2194.20.8 A759:2194 A75A:2198.20.A;0.11E.4
A75B:2198.20.4;0.11E.4 A75C:21B8.20.8 A75D:21B8 A75E:21F6.20.8 A75F:21F6 A760:21F4.20.A;220A.20.A
A761:21F4.20.4;220A.20.4 A762:221B.20.8 A763:221B A764:2225.20.8 A765:2225 A766:2226.20.8
A767:2226 A768:2229.20.8 A769:2229 A76A:222D.20.8 A76B:222D A76C:222E.20.8 A76D:222E
A76E:222F.20.8 A76F:222F A770:222F.20.14 A771-A772:20D5+70 A773-A774:2154+E A775-A776:21B6+1
A777-A778:21D9+57 A779:20C9.20.A;0.11D.4 A77A:20C9.20.4;0.11D.4 A77B:20EE.20.A;0.11D.4
A77C:20EE.20.4;0.11D.4 A77D:20F7.20.A;0.11D.4 A77E:2103.20.8 A77F:2103 A780:2148.20.8 A781:2148
A782:2198.20.A;0.11D.4 A783:2198.20.4;0.11D.4 A784:21B9.20.A;0.11E.4 A785:21B9.20.4;0.11E.4
A786:21CE.20.A;0.11D.4 A787:21CE.20.4;0.11D.4 A788-A78A:545+1 A78B:223F.20.8 A78C:223F
A78D:21EB.20.8 A78E-A78F:2142+FE A790:215C.20.8 A791:215C A792:20C2.20.8 A793-A794:20C2+1
A795:2109 A796:20BA.20.8 A797:20BA A798:20F1.20.8 A799:20F1 A79A:20A6.20.A;0.2B.4
A79B:20A6.20.4;0.2B.4 A79C:2167.20.A;0.2B.4 A79D:2167.20.4;0.2B.4 A79E:21DC.20.A;0.2B.4
A79F:21DC.20.4;0.2B.4 A7A0:20F7.20.A;0.35.4 A7A1:20F7.20.4;0.35.4 A7A2:2126.20.A;0.35.4
A7A3:2126.20.4;0.35.4 A7A4:2155.20.A;0.35.4 A7A5:2155.20.4;0.35.4 A7A6:2198.20.A;0.35.4
A7A7:2198.20.4;0.35.4 A7A8:21B9.20.A;0.35.4 A7A9:21B9.20.4;0.35.4 A7AA:210A.20.8
A7AB-A7AC:20E7.20.8+12 A7AD:213B.20.8 A7AE:2114.20.8 A7AF:2192 A7B0-A7B1:212F.20.8+AB
A7B2-A7B3:2123.20.8+E4 A7B4:20BE.20.8 A7B5:20BE A7B6:2182.20.8 A7B7:2182 A7B8:21E6.20.8 A7B9:21E6
A7BA:20AA.20.8 A7BB:20AA A7BC:211C.20.8 A7BD:211C A7BE:21EA.20.8 A7BF:21EA A7C0:20A6.20.A;0.31.4
A7C1:20A6.20.4;0.31.4 A7C2:21FD.20.A;0.11C.4 A7C3:21FD.20.4;0.11C.4 A7C4-A7C5:20C3.20.8+FB
A7C6:2215.20.8 A7C7:20CC.20.8 A7C8:20CC A7C9:21BB.20.8 A7CA:21BB A7D0:20F8.20.8 A7D1:20F8
A7D3:2224 A7D5:2228 A7D6:21C2.20.8 A7D7:21C2 A7D8:21B9.20.A;0.11F.4 A7D9:21B9.20.4;0.11F.4
A7F2-A7F3:20BF.20.1D+2F A7F4:2191.20.1D A7F5:210D.20.8 A7F6-A7F7:210D+9 A7F8:2106.20.14;0.39.14
A7F9:2167.20.14;0.11C.14;20D7.20.14 A7FA:21EF A7FB-A7FC:20F6+98 A7FD:2152 A7FE-A7FF:2115+3E
A800-A806:2B12+1 A807-A80A:2B1A+1 A80B:0.C4 A80C-A827:2B1E+1 A828-A82B:5AD+1 A82C:2B19
A830-A835:1EAF+1 A836-A837:5B1+1 A838:1E78 A839:5B3 A840-A847:3267+1 A848-A853:3273+1
A854-A857:3280+1 A858-A859:3286+3 A85A-A85B:328A+2 A85C-A85D:328D+3 A85E-A861:3295+1
A862-A865:3291+1 A866:3299 A867-A868:327F+5 A869-A86C:326F+1 A86D-A86E:3285+6 A86F-A870:328E+1
A871-A872:3287+1 A873:329A A874-A875:471+1 A876-A877:29F+1 A880:0.C4 A881:0.C5 A882-A8C4:2B3A+1
A8C5:0.C3 A8CE-A8CF:29B+1 A8D0-A8D9:209C+1 A8E0-A8F1: A8F2:2857 A8F3-A8F7:2857.20.4
A8F8-A8FA:414+1 A8FB:2858 A8FC-A8FD:417+23F7 A8FE-A8FF:2824+49 A900-A909:209C+1 A90A-A92A:3395+1
A92B:0.E5 A92C:0.E6 A92D:0.E7 A92E:477 A92F-A930:2A3+30CE A931-A953:3372+1 A95F-A960:2E9+3D81
A961-A97C:406B+1 A980:0.C3 A981:0.C4 A982:0.CA A983:0.C5 A984-A9AA:3646+1 A9AB:366E A9AC:366E.20.4
A9AD-A9B2:3670+1 A9B3:0.C2 A9B4:3676 A9B5:3676.20.4 A9B6-A9B9:3678+1 A9BA-A9BB:367D+1
A9BC-A9BD:3677+5 A9BE-A9BF:366D+2 A9C0:367F A9C1-A9C6:2DE+1 A9C7-A9C8:263+4B A9C9-A9CA:2AF+35
A9CB-A9CD:2E5+1 A9CF-A9D0:1E56+246 A9D1-A9D9:209D+1 A9DE-A9DF:478+1 A9E0-A9E1:33BF+8
A9E2-A9E3:33D1+16 A9E4-A9E5:3400+4B A9E6-A9E7:1E57+1582 A9E8:33FB A9E9-A9EA:33BD+3
A9EB-A9EC:33CC+7 A9ED-A9EE:33E1+3 A9EF:33E8 A9F0-A9F9:209C+1 A9FA:341C A9FB-A9FC:33ED+3
A9FD-A9FE:33FE+3 AA00-AA28:35BB+1 AA29-AA32:35E8+1 AA33-AA36:35E4+1 AA40-AA4D:35F2+1
AA50-AA59:209C+1 AA5C:47A AA5D-AA5F:2B0+1 AA60-AA61:33BC+9 AA62-AA63:33C8+3 AA64-AA65:33D2+6
AA66-AA68:33DC+2 AA69-AA6A:33E3+C AA6B-AA6C:33F3+21 AA6D-AA6E:3417+2 AA6F:33F9 AA70-AA71:1E58+15C2
AA72-AA73:33CE+39 AA74-AA76:3462+1 AA77-AA79:5DC+1 AA7A-AA7B:3408+57 AA7C-AA7D:3460+1
AA7E-AA7F:33C9+C AA80-AABE:30DD+1 AABF:0.E2 AAC0:311C AAC1:0.E3 AAC2:311D AADB-AADC:311E+1
AADD:1E59 AADE-AADF:42B+1 AAE0-AAEA:2AEF+1 AAEB-AAEF:2B02+1 AAF0:2B3 AAF1-AAF2:27C+2857
AAF3-AAF4:1E5A+1 AAF5-AAF6:2B07+A AB01-AB06:266E+1 AB09-AB0E:2741+1 AB11-AB16:2722+1
AB20-AB26:2787+1 AB28-AB2E:279F+1 AB30:20B0 AB31-AB32:20AD+2C AB33-AB34:20DA+3 AB35-AB36:20F0+B
AB37:213E AB38-AB39:2139+1 AB3A-AB3B:2151+10 AB3C-AB3D:2164+6 AB3E-AB3F:2173+5 AB40:216F
AB41-AB42:216D+1 AB43-AB44:2170+1 AB45-AB46:2199+2 AB47-AB48:21AE+1 AB49-AB4A:21A9+7
AB4B-AB4C:21B1+1 AB4D-AB4E:21C6+18 AB4F:21E5 AB50-AB51:21E2+1 AB52-AB53:21E9+1E AB54-AB55:2208+1
AB56-AB59:2203+1 AB5A:220F AB5B:548 AB5C-AB5D:210E.20.14+30 AB5E-AB5F:2138.20.14+B1
AB60-AB61:222A+1 AB62-AB63:217A+B2 AB64-AB65:20B3+1CB AB66:20C9.20.4;2217.20.4
AB67:21CE.20.4;21BE.20.4 AB68:21B4 AB69:2200.20.14 AB6A-AB6B:4F9+1 AB70-ABBF:3764+1
ABC0-ABDA:2AD4+1 ABDB-ABE2:2B08+1 ABE3-ABEA:2AFA+1 ABEB:2B4 ABEC:0.CC ABED:2B10 ABF0-ABF9:209C+1
D7B0-D7C6:40D0+1 D7CB-D7FB:413F+1 FA0E:FB41;FA0E.0.0 FA0F:FB41;FA0F.0.0 FA11:FB41;FA11.0.0
FA13:FB41;FA13.0.0 FA14:FB41;FA14.0.0 FA1F:FB41;FA1F.0.0 FA21:FB41;FA21.0.0 FA23:FB41;FA23.0.0
FA24:FB41;FA24.0.0 FA27:FB41;FA27.0.0 FA28:FB41;FA28.0.0 FA29:FB41;FA29.0.0
FB00:20EE.20.4;20EE.20.4 FB01:20EE.20.4;2112.20.4 FB02:20EE.20.4;2131.20.4
FB03:20EE.20.4;20EE.20.4;2112.20.4 FB04:20EE.20.4;20EE.20.4;2131.20.4
FB05:21B9.20.4;0.11D.4;21CE.20.4 FB06:21B9.20.4;21CE.20.4 FB13:241B.20.4;241E.20.4
FB14:241B.20.4;240C.20.4 FB15:241B.20.4;2412.20.4 FB16:2426.20.4;241E.20.4
FB17:241B.20.4;2414.20.4 FB1E:0.61 FB20:243F.20.5 FB21-FB22:2430.20.5+3 FB23-FB24:2434.20.5+6
FB25-FB26:243B.20.5+1 FB27-FB28:2443.20.5+2 FB29:6A7.20.5 FB4F:2430.20.4;243B.20.4 FB50:247A.20.1A
FB51:247A.20.19 FB52:2487.20.1A FB53:2487.20.19 FB54:2487.20.17 FB55:2487.20.18 FB56:2488.20.1A
FB57:2488.20.19 FB58:2488.20.17 FB59:2488.20.18 FB5A:2489.20.1A FB5B:2489.20.19 FB5C:2489.20.17
FB5D:2489.20.18 FB5E:249A.20.1A FB5F:249A.20.19 FB60:249A.20.17 FB61:249A.20.18 FB62:249D.20.1A
FB63:249D.20.19 FB64:249D.20.17 FB65:249D.20.18 FB66:2499.20.1A FB67:2499.20.19 FB68:2499.20.17
FB69:2499.20.18 FB6A:24FE.20.1A FB6B:24FE.20.19 FB6C:24FE.20.17 FB6D:24FE.20.18 FB6E:2501.20.1A
FB6F:2501.20.19 FB70:2501.20.17 FB71:2501.20.18 FB72:24A3.20.1A FB73:24A3.20.19 FB74:24A3.20.17
FB75:24A3.20.18 FB76:24A2.20.1A FB77:24A2.20.19 FB78:24A2.20.17 FB79:24A2.20.18 FB7A:24A5.20.1A
FB7B:24A5.20.19 FB7C:24A5.20.17 FB7D:24A5.20.18 FB7E:24A7.20.1A FB7F:24A7.20.19 FB80:24A7.20.17
FB81:24A7.20.18 FB82:24BE.20.1A FB83:24BE.20.19 FB84:24BD.20.1A FB85:24BD.20.19 FB86:24C0.20.1A
FB87:24C0.20.19 FB88:24B9.20.1A FB89:24B9.20.19 FB8A:24CF.20.1A FB8B:24CF.20.19 FB8C:24C8.20.1A
FB8D:24C8.20.19 FB8E:250D.20.1A FB8F:250D.20.19 FB90:250D.20.17 FB91:250D.20.18 FB92:2515.20.1A
FB93:2515.20.19 FB94:2515.20.17 FB95:2515.20.18 FB96:251B.20.1A FB97:251B.20.19 FB98:251B.20.17
FB99:251B.20.18 FB9A:2519.20.1A FB9B:2519.20.19 FB9C:2519.20.17 FB9D:2519.20.18 FB9E:2531.20.1A
FB9F:2531.20.19 FBA0:2533.20.1A FBA1:2533.20.19 FBA2:2533.20.17 FBA3:2533.20.18
FBA4:2540.20.1A;0.83.1A FBA5:2540.20.19;0.83.19 FBA6:253D.20.1A FBA7:253D.20.19 FBA8:253D.20.17
FBA9:253D.20.18 FBAA:253C.20.1A FBAB:253C.20.19 FBAC:253C.20.17 FBAD:253C.20.18 FBAE:255E.20.1A
FBAF:255E.20.19 FBB0:255E.20.1A;0.83.1A FBB1:255E.20.19;0.83.19 FBB2-FBC2:576+1 FBD3:2512.20.1A
FBD4:2512.20.19 FBD5:2512.20.17 FBD6:2512.20.18 FBD7:2545.20.1A FBD8:2545.20.19 FBD9:2544.20.1A
FBDA:2544.20.19 FBDB:2546.20.1A FBDC:2546.20.19 FBDD:2476.20.1A;2545.20.1A FBDE:2549.20.1A
FBDF:2549.20.19 FBE0:2543.20.1A FBE1:2543.20.19 FBE2:2547.20.1A FBE3:2547.20.19 FBE4:2554.20.1A
FBE5:2554.20.19 FBE6:2554.20.17 FBE7:2554.20.18 FBE8:254F.20.17 FBE9:254F.20.18
FBEA:2480.20.1A;2484.20.1A FBEB:2480.20.19;2484.20.19 FBEC:2480.20.1A;2540.20.1A
FBED:2480.20.19;2540.20.19 FBEE:2480.20.1A;2541.20.1A FBEF:2480.20.19;2541.20.19
FBF0:2480.20.1A;2545.20.1A FBF1:2480.20.19;2545.20.19 FBF2:2480.20.1A;2544.20.1A
FBF3:2480.20.19;2544.20.19 FBF4:2480.20.1A;2546.20.1A FBF5:2480.20.19;2546.20.19
FBF6:2480.20.1A;2554.20.1A FBF7:2480.20.19;2554.20.19 FBF8:2480.20.17;2554.20.17
FBF9:2480.20.1A;254F.20.1A FBFA:2480.20.19;254F.20.19 FBFB:2480.20.17;254F.20.17 FBFC:2551.20.1A
FBFD:2551.20.19 FBFE:2551.20.17 FBFF:2551.20.18 FC00:2480.20.1A;24A1.20.1A
FC01:2480.20.1A;24AC.20.1A FC02:2480.20.1A;252C.20.1A FC03:2480.20.1A;254F.20.1A
FC04:2480.20.1A;2550.20.1A FC05:2486.20.1A;24A1.20.1A FC06:2486.20.1A;24AC.20.1A
FC07:2486.20.1A;24AD.20.1A FC08:2486.20.1A;252C.20.1A FC09:2486.20.1A;254F.20.1A
FC0A:2486.20.1A;2550.20.1A FC0B:2497.20.1A;24A1.20.1A FC0C:2497.20.1A;24AC.20.1A
FC0D:2497.20.1A;24AD.20.1A FC0E:2497.20.1A;252C.20.1A FC0F:2497.20.1A;254F.20.1A
FC10:2497.20.1A;2550.20.1A FC11:2498.20.1A;24A1.20.1A FC12:2498.20.1A;252C.20.1A
FC13:2498.20.1A;254F.20.1A FC14:2498.20.1A;2550.20.1A FC15:24A1.20.1A;24AC.20.1A
FC16:24A1.20.1A;252C.20.1A FC17:24AC.20.1A;24A1.20.1A FC18:24AC.20.1A;252C.20.1A
FC19:24AD.20.1A;24A1.20.1A FC1A:24AD.20.1A;24AC.20.1A FC1B:24AD.20.1A;252C.20.1A
FC1C:24D9.20.1A;24A1.20.1A FC1D:24D9.20.1A;24AC.20.1A FC1E:24D9.20.1A;24AD.20.1A
FC1F:24D9.20.1A;252C.20.1A FC20:24E4.20.1A;24AC.20.1A FC21:24E4.20.1A;252C.20.1A
FC22:24E5.20.1A;24A1.20.1A FC23:24E5.20.1A;24AC.20.1A FC24:24E5.20.1A;24AD.20.1A
FC25:24E5.20.1A;252C.20.1A FC26:24EA.20.1A;24AC.20.1A FC27-FC28:24EA.20.1A;252C.20.1A+1
FC29:24F0.20.1A;24A1.20.1A FC2A:24F0.20.1A;252C.20.1A FC2B:24F1.20.1A;24A1.20.1A
FC2C:24F1.20.1A;252C.20.1A FC2D:24F9.20.1A;24A1.20.1A FC2E:24F9.20.1A;24AC.20.1A
FC2F:24F9.20.1A;24AD.20.1A FC30:24F9.20.1A;252C.20.1A FC31:24F9.20.1A;254F.20.1A
FC32:24F9.20.1A;2550.20.1A FC33:2505.20.1A;24AC.20.1A FC34:2505.20.1A;252C.20.1A
FC35:2505.20.1A;254F.20.1A FC36:2505.20.1A;2550.20.1A FC37:250C.20.1A;2484.20.1A
FC38:250C.20.1A;24A1.20.1A FC39:250C.20.1A;24AC.20.1A FC3A:250C.20.1A;24AD.20.1A
FC3B:250C.20.1A;2524.20.1A FC3C:250C.20.1A;252C.20.1A FC3D:250C.20.1A;254F.20.1A
FC3E:250C.20.1A;2550.20.1A FC3F:2524.20.1A;24A1.20.1A FC40:2524.20.1A;24AC.20.1A
FC41:2524.20.1A;24AD.20.1A FC42:2524.20.1A;252C.20.1A FC43:2524.20.1A;254F.20.1A
FC44:2524.20.1A;2550.20.1A FC45:252C.20.1A;24A1.20.1A FC46:252C.20.1A;24AC.20.1A
FC47:252C.20.1A;24AD.20.1A FC48:252C.20.1A;252C.20.1A FC49:252C.20.1A;254F.20.1A
FC4A:252C.20.1A;2550.20.1A FC4B:2530.20.1A;24A1.20.1A FC4C:2530.20.1A;24AC.20.1A
FC4D:2530.20.1A;24AD.20.1A FC4E:2530.20.1A;252C.20.1A FC4F:2530.20.1A;254F.20.1A
FC50:2530.20.1A;2550.20.1A FC51:253B.20.1A;24A1.20.1A FC52:253B.20.1A;252C.20.1A
FC53:253B.20.1A;254F.20.1A FC54:253B.20.1A;2550.20.1A FC55:2550.20.1A;24A1.20.1A
FC56:2550.20.1A;24AC.20.1A FC57:2550.20.1A;24AD.20.1A FC58:2550.20.1A;252C.20.1A
FC59:2550.20.1A;254F.20.1A FC5A:2550.20.1A;2550.20.1A FC5B-FC5C:24B8.20.1A;0.98.1A+E
FC5D:254F.20.1A;0.98.1A FC5E:0.70.1A;0.80.1A FC5F:0.73.1A;0.80.1A FC60:0.76.1A;0.80.1A
FC61:0.7A.1A;0.80.1A FC62:0.7D.1A;0.80.1A FC63:0.80.1A;0.98.1A FC64:2480.20.19;24C6.20.19
FC65:2480.20.19;24C7.20.19 FC66:2480.20.19;252C.20.19 FC67:2480.20.19;2530.20.19
FC68:2480.20.19;254F.20.19 FC69:2480.20.19;2550.20.19 FC6A:2486.20.19;24C6.20.19
FC6B:2486.20.19;24C7.20.19 FC6C:2486.20.19;252C.20.19 FC6D:2486.20.19;2530.20.19
FC6E:2486.20.19;254F.20.19 FC6F:2486.20.19;2550.20.19 FC70:2497.20.19;24C6.20.19
FC71:2497.20.19;24C7.20.19 FC72:2497.20.19;252C.20.19 FC73:2497.20.19;2530.20.19
FC74:2497.20.19;254F.20.19 FC75:2497.20.19;2550.20.19 FC76:2498.20.19;24C6.20.19
FC77:2498.20.19;24C7.20.19 FC78:2498.20.19;252C.20.19 FC79:2498.20.19;2530.20.19
FC7A:2498.20.19;254F.20.19 FC7B:2498.20.19;2550.20.19 FC7C:24F9.20.19;254F.20.19
FC7D:24F9.20.19;2550.20.19 FC7E:2505.20.19;254F.20.19 FC7F:2505.20.19;2550.20.19
FC80:250C.20.19;2484.20.19 FC81:250C.20.19;2524.20.19 FC82:250C.20.19;252C.20.19
FC83:250C.20.19;254F.20.19 FC84:250C.20.19;2550.20.19 FC85:2524.20.19;252C.20.19
FC86:2524.20.19;254F.20.19 FC87:2524.20.19;2550.20.19 FC88:252C.20.19;2484.20.19
FC89:252C.20.19;252C.20.19 FC8A:2530.20.19;24C6.20.19 FC8B:2530.20.19;24C7.20.19
FC8C:2530.20.19;252C.20.19 FC8D:2530.20.19;2530.20.19 FC8E:2530.20.19;254F.20.19
FC8F:2530.20.19;2550.20.19 FC90:254F.20.19;0.98.19 FC91:2550.20.19;24C6.20.19
FC92:2550.20.19;24C7.20.19 FC93:2550.20.19;252C.20.19 FC94:2550.20.19;2530.20.19
FC95:2550.20.19;254F.20.19 FC96:2550.20.19;2550.20.19 FC97:2480.20.17;24A1.20.17
FC98:2480.20.17;24AC.20.17 FC99:2480.20.17;24AD.20.17 FC9A:2480.20.17;252C.20.17
FC9B:2480.20.17;253B.20.17 FC9C:2486.20.17;24A1.20.17 FC9D:2486.20.17;24AC.20.17
FC9E:2486.20.17;24AD.20.17 FC9F:2486.20.17;252C.20.17 FCA0:2486.20.17;253B.20.17
FCA1:2497.20.17;24A1.20.17 FCA2:2497.20.17;24AC.20.17 FCA3:2497.20.17;24AD.20.17
FCA4:2497.20.17;252C.20.17 FCA5:2497.20.17;253B.20.17 FCA6:2498.20.17;252C.20.17
FCA7:24A1.20.17;24AC.20.17 FCA8:24A1.20.17;252C.20.17 FCA9:24AC.20.17;24A1.20.17
FCAA:24AC.20.17;252C.20.17 FCAB:24AD.20.17;24A1.20.17 FCAC:24AD.20.17;252C.20.17
FCAD:24D9.20.17;24A1.20.17 FCAE:24D9.20.17;24AC.20.17 FCAF:24D9.20.17;24AD.20.17
FCB0:24D9.20.17;252C.20.17 FCB1:24E4.20.17;24AC.20.17 FCB2:24E4.20.17;24AD.20.17
FCB3:24E4.20.17;252C.20.17 FCB4:24E5.20.17;24A1.20.17 FCB5:24E5.20.17;24AC.20.17
FCB6:24E5.20.17;24AD.20.17 FCB7:24E5.20.17;252C.20.17 FCB8:24EA.20.17;24AC.20.17
FCB9:24EB.20.17;252C.20.17 FCBA:24F0.20.17;24A1.20.17 FCBB:24F0.20.17;252C.20.17
FCBC:24F1.20.17;24A1.20.17 FCBD:24F1.20.17;252C.20.17 FCBE:24F9.20.17;24A1.20.17
FCBF:24F9.20.17;24AC.20.17 FCC0:24F9.20.17;24AD.20.17 FCC1:24F9.20.17;252C.20.17
FCC2:2505.20.17;24AC.20.17 FCC3:2505.20.17;252C.20.17 FCC4:250C.20.17;24A1.20.17
FCC5:250C.20.17;24AC.20.17 FCC6:250C.20.17;24AD.20.17 FCC7:250C.20.17;2524.20.17
FCC8:250C.20.17;252C.20.17 FCC9:2524.20.17;24A1.20.17 FCCA:2524.20.17;24AC.20.17
FCCB:2524.20.17;24AD.20.17 FCCC:2524.20.17;252C.20.17 FCCD:2524.20.17;253B.20.17
FCCE:252C.20.17;24A1.20.17 FCCF:252C.20.17;24AC.20.17 FCD0:252C.20.17;24AD.20.17
FCD1:252C.20.17;252C.20.17 FCD2:2530.20.17;24A1.20.17 FCD3:2530.20.17;24AC.20.17
FCD4:2530.20.17;24AD.20.17 FCD5:2530.20.17;252C.20.17 FCD6:2530.20.17;253B.20.17
FCD7:253B.20.17;24A1.20.17 FCD8:253B.20.17;252C.20.17 FCD9:253B.20.17;0.98.17
FCDA:2550.20.17;24A1.20.17 FCDB:2550.20.17;24AC.20.17 FCDC:2550.20.17;24AD.20.17
FCDD:2550.20.17;252C.20.17 FCDE:2550.20.17;253B.20.17 FCDF:2480.20.18;252C.20.18
FCE0:2480.20.18;253B.20.18 FCE1:2486.20.18;252C.20.18 FCE2:2486.20.18;253B.20.18
FCE3:2497.20.18;252C.20.18 FCE4:2497.20.18;253B.20.18 FCE5:2498.20.18;252C.20.18
FCE6:2498.20.18;253B.20.18 FCE7:24D9.20.18;252C.20.18 FCE8:24D9.20.18;253B.20.18
FCE9:24DA.20.18;252C.20.18 FCEA:24DA.20.18;253B.20.18 FCEB:250C.20.18;2524.20.18
FCEC-FCED:250C.20.18;252C.20.18+18 FCEE:2530.20.18;252C.20.18 FCEF:2530.20.18;253B.20.18
FCF0:2550.20.18;252C.20.18 FCF1:2550.20.18;253B.20.18 FCF2:0.76.18;0.80.18 FCF3:0.7A.18;0.80.18
FCF4:0.7D.18;0.80.18 FCF5:24EA.20.1A;254F.20.1A FCF6:24EA.20.1A;2550.20.1A
FCF7:24F0.20.1A;254F.20.1A FCF8:24F0.20.1A;2550.20.1A FCF9:24F1.20.1A;254F.20.1A
FCFA:24F1.20.1A;2550.20.1A FCFB:24D9.20.1A;254F.20.1A FCFC:24D9.20.1A;2550.20.1A
FCFD:24DA.20.1A;254F.20.1A FCFE:24DA.20.1A;2550.20.1A FCFF:24AC.20.1A;254F.20.1A
FD00:24AC.20.1A;2550.20.1A FD01:24A1.20.1A;254F.20.1A FD02:24A1.20.1A;2550.20.1A
FD03:24AD.20.1A;254F.20.1A FD04:24AD.20.1A;2550.20.1A FD05:24E4.20.1A;254F.20.1A
FD06:24E4.20.1A;2550.20.1A FD07:24E5.20.1A;254F.20.1A FD08:24E5.20.1A;2550.20.1A
FD09:24DA.20.1A;24A1.20.1A FD0A:24DA.20.1A;24AC.20.1A FD0B:24DA.20.1A;24AD.20.1A
FD0C:24DA.20.1A;252C.20.1A FD0D:24DA.20.1A;24C6.20.1A FD0E-FD0F:24D9.20.1A;24C6.20.1A+B
FD10:24E5.20.1A;24C6.20.1A FD11:24EA.20.19;254F.20.19 FD12:24EA.20.19;2550.20.19
FD13:24F0.20.19;254F.20.19 FD14:24F0.20.19;2550.20.19 FD15:24F1.20.19;254F.20.19
FD16:24F1.20.19;2550.20.19 FD17:24D9.20.19;254F.20.19 FD18:24D9.20.19;2550.20.19
FD19:24DA.20.19;254F.20.19 FD1A:24DA.20.19;2550.20.19 FD1B:24AC.20.19;254F.20.19
FD1C:24AC.20.19;2550.20.19 FD1D:24A1.20.19;254F.20.19 FD1E:24A1.20.19;2550.20.19
FD1F:24AD.20.19;254F.20.19 FD20:24AD.20.19;2550.20.19 FD21:24E4.20.19;254F.20.19
FD22:24E4.20.19;2550.20.19 FD23:24E5.20.19;254F.20.19 FD24:24E5.20.19;2550.20.19
FD25:24DA.20.19;24A1.20.19 FD26:24DA.20.19;24AC.20.19 FD27:24DA.20.19;24AD.20.19
FD28:24DA.20.19;252C.20.19 FD29:24DA.20.19;24C6.20.19 FD2A-FD2B:24D9.20.19;24C6.20.19+B
FD2C:24E5.20.19;24C6.20.19 FD2D:24DA.20.17;24A1.20.17 FD2E:24DA.20.17;24AC.20.17
FD2F:24DA.20.17;24AD.20.17 FD30:24DA.20.17;252C.20.17 FD31-FD32:24D9.20.17;253B.20.17+1
FD33:24EA.20.17;252C.20.17 FD34:24D9.20.18;24A1.20.18 FD35:24D9.20.18;24AC.20.18
FD36:24D9.20.18;24AD.20.18 FD37:24DA.20.18;24A1.20.18 FD38:24DA.20.18;24AC.20.18
FD39:24DA.20.18;24AD.20.18 FD3A-FD3B:24EA.20.18;252C.20.18+1 FD3C:2484.20.19;0.6D.19
FD3D:2484.20.1A;0.6D.1A FD3E-FD3F:3A7+1 FD40-FD4F:561+1 FD50:2497.20.17;24A1.20.17;252C.20.17
FD51:2497.20.19;24AC.20.19;24A1.20.19 FD52:2497.20.17;24AC.20.17;24A1.20.17
FD53:2497.20.17;24AC.20.17;252C.20.17 FD54:2497.20.17;24AD.20.17;252C.20.17
FD55:2497.20.17;252C.20.17;24A1.20.17 FD56:2497.20.17;252C.20.17;24AC.20.17
FD57:2497.20.17;252C.20.17;24AD.20.17 FD58:24A1.20.19;252C.20.19;24AC.20.19
FD59:24A1.20.17;252C.20.17;24AC.20.17 FD5A:24AC.20.19;252C.20.19;2550.20.19
FD5B:24AC.20.19;252C.20.19;254F.20.19 FD5C:24D9.20.17;24AC.20.17;24A1.20.17
FD5D:24D9.20.17;24A1.20.17;24AC.20.17 FD5E:24D9.20.19;24A1.20.19;254F.20.19
FD5F:24D9.20.19;252C.20.19;24AC.20.19 FD60:24D9.20.17;252C.20.17;24AC.20.17
FD61:24D9.20.17;252C.20.17;24A1.20.17 FD62:24D9.20.19;252C.20.19;252C.20.19
FD63:24D9.20.17;252C.20.17;252C.20.17 FD64:24E4.20.19;24AC.20.19;24AC.20.19
FD65:24E4.20.17;24AC.20.17;24AC.20.17 FD66:24E4.20.19;252C.20.19;252C.20.19
FD67:24DA.20.19;24AC.20.19;252C.20.19 FD68:24DA.20.17;24AC.20.17;252C.20.17
FD69:24DA.20.19;24A1.20.19;2550.20.19 FD6A:24DA.20.19;252C.20.19;24AD.20.19
FD6B:24DA.20.17;252C.20.17;24AD.20.17 FD6C:24DA.20.19;252C.20.19;252C.20.19
FD6D:24DA.20.17;252C.20.17;252C.20.17 FD6E:24E5.20.19;24AC.20.19;254F.20.19
FD6F:24E5.20.19;24AD.20.19;252C.20.19 FD70:24E5.20.17;24AD.20.17;252C.20.17
FD71:24EA.20.19;252C.20.19;24AC.20.19 FD72:24EA.20.17;252C.20.17;24AC.20.17
FD73:24EA.20.17;252C.20.17;252C.20.17 FD74:24EA.20.19;252C.20.19;2550.20.19
FD75:24F0.20.19;24A1.20.19;252C.20.19 FD76:24F0.20.19;252C.20.19;252C.20.19
FD77:24F0.20.17;252C.20.17;252C.20.17 FD78:24F0.20.19;252C.20.19;254F.20.19
FD79:24F1.20.19;252C.20.19;252C.20.19 FD7A:24F1.20.19;252C.20.19;2550.20.19
FD7B:24F1.20.19;252C.20.19;254F.20.19 FD7C:24F9.20.19;24AD.20.19;252C.20.19
FD7D:24F9.20.17;24AD.20.17;252C.20.17 FD7E:2505.20.19;252C.20.19;24AC.20.19
FD7F:2505.20.19;252C.20.19;252C.20.19 FD80:2524.20.19;24AC.20.19;252C.20.19
FD81:2524.20.19;24AC.20.19;2550.20.19 FD82:2524.20.19;24AC.20.19;254F.20.19
FD83:2524.20.17;24A1.20.17;24A1.20.17 FD84:2524.20.19;24A1.20.19;24A1.20.19
FD85:2524.20.19;24AD.20.19;252C.20.19 FD86:2524.20.17;24AD.20.17;252C.20.17
FD87:2524.20.19;252C.20.19;24AC.20.19 FD88:2524.20.17;252C.20.17;24AC.20.17
FD89:252C.20.17;24AC.20.17;24A1.20.17 FD8A:252C.20.17;24AC.20.17;252C.20.17
FD8B:252C.20.19;24AC.20.19;2550.20.19 FD8C:252C.20.17;24A1.20.17;24AC.20.17
FD8D:252C.20.17;24A1.20.17;252C.20.17 FD8E:252C.20.17;24AD.20.17;24A1.20.17
FD8F:252C.20.17;24AD.20.17;252C.20.17 FD92:252C.20.17;24A1.20.17;24AD.20.17
FD93:253B.20.17;252C.20.17;24A1.20.17 FD94:253B.20.17;252C.20.17;252C.20.17
FD95:2530.20.17;24AC.20.17;252C.20.17 FD96:2530.20.19;24AC.20.19;254F.20.19
FD97:2530.20.19;24A1.20.19;252C.20.19 FD98:2530.20.17;24A1.20.17;252C.20.17
FD99:2530.20.19;24A1.20.19;254F.20.19 FD9A:2530.20.19;252C.20.19;2550.20.19
FD9B:2530.20.19;252C.20.19;254F.20.19 FD9C:2550.20.19;252C.20.19;252C.20.19
FD9D:2550.20.17;252C.20.17;252C.20.17 FD9E:2486.20.19;24AD.20.19;2550.20.19
FD9F:2497.20.19;24A1.20.19;2550.20.19 FDA0:2497.20.19;24A1.20.19;254F.20.19
FDA1:2497.20.19;24AD.20.19;2550.20.19 FDA2:2497.20.19;24AD.20.19;254F.20.19
FDA3:2497.20.19;252C.20.19;2550.20.19 FDA4:2497.20.19;252C.20.19;254F.20.19
FDA5:24A1.20.19;252C.20.19;2550.20.19 FDA6:24A1.20.19;24AC.20.19;254F.20.19
FDA7:24A1.20.19;252C.20.19;254F.20.19 FDA8:24D9.20.19;24AD.20.19;254F.20.19
FDA9:24E4.20.19;24AC.20.19;2550.20.19 FDAA-FDAB:24DA.20.19;24AC.20.19;2550.20.19+B
FDAC:2524.20.19;24A1.20.19;2550.20.19 FDAD:2524.20.19;252C.20.19;2550.20.19
FDAE:2550.20.19;24AC.20.19;2550.20.19 FDAF:2550.20.19;24A1.20.19;2550.20.19
FDB0:2550.20.19;252C.20.19;2550.20.19 FDB1:252C.20.19;252C.20.19;2550.20.19
FDB2:2505.20.19;252C.20.19;2550.20.19 FDB3:2530.20.19;24AC.20.19;2550.20.19
FDB4:2505.20.17;252C.20.17;24AC.20.17 FDB5:2524.20.17;24AC.20.17;252C.20.17
FDB6-FDB7:24F0.20.19;252C.20.19;2550.20.19+1C FDB8:2530.20.17;24A1.20.17;24AC.20.17
FDB9:252C.20.19;24AD.20.19;2550.20.19 FDBA:2524.20.17;24A1.20.17;252C.20.17
FDBB:250C.20.19;252C.20.19;252C.20.19 FDBC:2524.20.19;24A1.20.19;252C.20.19
FDBD:2530.20.19;24A1.20.19;24AC.20.19 FDBE:24A1.20.19;24AC.20.19;2550.20.19
FDBF-FDC0:24AC.20.19;24A1.20.19;2550.20.19+80 FDC1:24F9.20.19;252C.20.19;2550.20.19
FDC2:2486.20.19;24AC.20.19;2550.20.19 FDC3:250C.20.17;252C.20.17;252C.20.17
FDC4:24F0.20.17;24A1.20.17;252C.20.17 FDC5:24E4.20.17;252C.20.17;252C.20.17
FDC6:24D9.20.19;24AD.20.19;2550.20.19 FDC7:2530.20.19;24A1.20.19;2550.20.19 FDCF:571
FDF0-FDF1:24E4.20.1A;2524.20.1A;255E.20.1A+21 FDF2:2484.20.1A;2524.20.1A;2524.20.1A;253B.20.1A
FDF3:2484.20.1A;250C.20.1A;2486.20.1A;24C6.20.1A FDF4:252C.20.1A;24AC.20.1A;252C.20.1A;24B7.20.1A
FDF5:24E4.20.1A;2524.20.1A;24F0.20.1A;252C.20.1A FDF6:24C6.20.1A;24D9.20.1A;2541.20.1A;2524.20.1A
FDF7:24F0.20.1A;2524.20.1A;2550.20.1A;253B.20.1A FDF8:2541.20.1A;24D9.20.1A;2524.20.1A;252C.20.1A
FDF9:24E4.20.1A;2524.20.1A;254F.20.1A
FDFA:24E4.20.1A;2524.20.1A;254F.20.1A;209.20.1A;2484.20.1A;2524.20.1A;2524.20.1A;253B.20.1A;209.20.1A;24F0.20.1A;2524.20.1A;2550.20.1A;253B.20.1A;209.20.1A;2541.20.1A;24D9.20.1A;2524.20.1A;252C.20.1A
FDFB:24A1.20.1A;2524.20.1A;209.20.1A;24A1.20.1A;2524.20.1A;2484.20.1A;2524.20.1A;253B.20.1A
FDFC:1EA2 FDFD-FDFF:572+1 FE00-FE0F: FE10-FE11:224.20.16+13 FE12:295.20.16 FE13:241.20.16
FE14-FE15:23B.20.16+2D FE16-FE17:26F.20.16+132 FE18:3A2.20.16 FE19:281.20.16;281.20.16;281.20.16
FE20:0.4F FE21: FE22:0.4E FE23-FE26: FE27:0.34 FE28: FE29:0.4E FE2A-FE2D: FE2E:0.50 FE2F:
FE30:281.20.16;281.20.16 FE31:216.20.16 FE32:215.20.16 FE33-FE34:20B.20.16 FE35-FE36:335.20.16+1
FE37-FE38:339.20.16+1 FE39-FE3A:39F.20.16+1 FE3B-FE3C:39D.20.16+1 FE3D-FE3E:397.20.16+1
FE3F-FE40:395.20.16+1 FE41-FE44:399.20.16+1 FE45-FE46:238+1 FE47-FE48:337.20.16+1
FE49-FE4C:20A.20.4 FE4D-FE4F:20B.20.4 FE50-FE51:224.20.F+13 FE52:281.20.F FE54-FE55:23B.20.F+6
FE56:26F.20.F FE57:268.20.F FE58-FE59:216.20.F+11F FE5A-FE5B:336.20.F+3 FE5C-FE5D:33A.20.F+65
FE5E-FE5F:3A0.20.F+21 FE60:3BE.20.F FE61-FE62:3B6.20.F+2F1 FE63-FE64:20D.20.F+49E FE65:6AD.20.F
FE66:6AC.20.F FE68-FE69:3BC.20.F+1AB1 FE6A:3C2.20.F FE6B:3B5.20.F FE70:0.6D.1A FE71:0.6D.18
FE72:0.70.1A FE73: FE74:0.73.1A FE76:0.76.1A FE77:0.76.18 FE78:0.7A.1A FE79:0.7A.18 FE7A:0.7D.1A
FE7B:0.7D.18 FE7C:0.80.1A FE7D:0.80.18 FE7E:0.81.1A FE7F:0.81.18 FE80-FE81:2476.20.1A+1
FE82:2477.20.19 FE83:2478.20.1A FE84:2478.20.19 FE85:247B.20.1A FE86:247B.20.19 FE87:247C.20.1A
FE88:247C.20.19 FE89:2480.20.1A FE8A:2480.20.19 FE8B:2480.20.17 FE8C:2480.20.18 FE8D:2484.20.1A
FE8E:2484.20.19 FE8F:2486.20.1A FE90:2486.20.19 FE91:2486.20.17 FE92:2486.20.18 FE93:2496.20.1A
FE94:2496.20.19 FE95:2497.20.1A FE96:2497.20.19 FE97:2497.20.17 FE98:2497.20.18 FE99:2498.20.1A
FE9A:2498.20.19 FE9B:2498.20.17 FE9C:2498.20.18 FE9D:24A1.20.1A FE9E:24A1.20.19 FE9F:24A1.20.17
FEA0:24A1.20.18 FEA1:24AC.20.1A FEA2:24AC.20.19 FEA3:24AC.20.17 FEA4:24AC.20.18 FEA5:24AD.20.1A
FEA6:24AD.20.19 FEA7:24AD.20.17 FEA8:24AD.20.18 FEA9:24B7.20.1A FEAA:24B7.20.19 FEAB:24B8.20.1A
FEAC:24B8.20.19 FEAD:24C6.20.1A FEAE:24C6.20.19 FEAF:24C7.20.1A FEB0:24C7.20.19 FEB1:24D9.20.1A
FEB2:24D9.20.19 FEB3:24D9.20.17 FEB4:24D9.20.18 FEB5:24DA.20.1A FEB6:24DA.20.19 FEB7:24DA.20.17
FEB8:24DA.20.18 FEB9:24E4.20.1A FEBA:24E4.20.19 FEBB:24E4.20.17 FEBC:24E4.20.18 FEBD:24E5.20.1A
FEBE:24E5.20.19 FEBF:24E5.20.17 FEC0:24E5.20.18 FEC1:24EA.20.1A FEC2:24EA.20.19 FEC3:24EA.20.17
FEC4:24EA.20.18 FEC5:24EB.20.1A FEC6:24EB.20.19 FEC7:24EB.20.17 FEC8:24EB.20.18 FEC9:24F0.20.1A
FECA:24F0.20.19 FECB:24F0.20.17 FECC:24F0.20.18 FECD:24F1.20.1A FECE:24F1.20.19 FECF:24F1.20.17
FED0:24F1.20.18 FED1:24F9.20.1A FED2:24F9.20.19 FED3:24F9.20.17 FED4:24F9.20.18 FED5:2505.20.1A
FED6:2505.20.19 FED7:2505.20.17 FED8:2505.20.18 FED9:250C.20.1A FEDA:250C.20.19 FEDB:250C.20.17
FEDC:250C.20.18 FEDD:2524.20.1A FEDE:2524.20.19 FEDF:2524.20.17 FEE0:2524.20.18 FEE1:252C.20.1A
FEE2:252C.20.19 FEE3:252C.20.17 FEE4:252C.20.18 FEE5:2530.20.1A FEE6:2530.20.19 FEE7:2530.20.17
FEE8:2530.20.18 FEE9:253B.20.1A FEEA:253B.20.19 FEEB:253B.20.17 FEEC:253B.20.18 FEED:2541.20.1A
FEEE:2541.20.19 FEEF:254F.20.1A FEF0:254F.20.19 FEF1:2550.20.1A FEF2:2550.20.19 FEF3:2550.20.17
FEF4:2550.20.18 FEF5:2524.20.1A;2477.20.1A FEF6:2524.20.19;2477.20.19 FEF7:2524.20.1A;2478.20.1A
FEF8:2524.20.19;2478.20.19 FEF9:2524.20.1A;247C.20.1A FEFA:2524.20.19;247C.20.19
FEFB:2524.20.1A;2484.20.1A FEFC:2524.20.19;2484.20.19 FEFF: FF01-FF02:268.20.3+CA
FF03-FF04:3C1.20.3+1AAC FF05:3C2.20.3 FF06:3BE.20.3 FF07-FF08:32F.20.3+6 FF09-FF0A:336.20.3+80
FF0B:6A7.20.3 FF0C:224.20.3 FF0D-FF0E:20D.20.3+74 FF0F-FF10:3BB.20.3+1CE1 FF11-FF19:209D.20.3+1
FF1A:241.20.3 FF1B-FF1C:23B.20.3+470 FF1D-FF1E:6AC.20.3+1 FF1F-FF20:26F.20.3+146
FF21-FF22:20A6.20.9+E FF23-FF24:20BF.20.9+A FF25-FF26:20D7.20.9+17 FF27-FF28:20F7.20.9+F
FF29-FF2A:2112.20.9+D FF2B-FF2C:2126.20.9+B FF2D-FF2E:214C.20.9+9 FF2F-FF30:2167.20.9+1E
FF31-FF32:2191.20.9+7 FF33-FF34:21B9.20.9+15 FF35-FF36:21DC.20.9+18 FF37-FF38:21FD.20.9+4
FF39-FF3A:220A.20.9+7 FF3B-FF3C:337.20.3+85 FF3D-FF3E:338.20.3+19E FF3F-FF40:20B.20.3+2C8
FF41-FF42:20A6.20.3+E FF43-FF44:20BF.20.3+A FF45-FF46:20D7.20.3+17 FF47-FF48:20F7.20.3+F
FF49-FF4A:2112.20.3+D FF4B-FF4C:2126.20.3+B FF4D-FF4E:214C.20.3+9 FF4F-FF50:2167.20.3+1E
FF51-FF52:2191.20.3+7 FF53-FF54:21B9.20.3+15 FF55-FF56:21DC.20.3+18 FF57-FF58:21FD.20.3+4
FF59-FF5A:220A.20.3+7 FF5B-FF5C:339.20.3+376 FF5D-FF5E:33A.20.3+377 FF5F-FF60:34B.20.3+1
FF61-FF62:295.20.12+104 FF63:39A.20.12 FF64:237.20.12 FF65-FF66:222.20.12+3F80
FF67-FF69:4170.20.10+1 FF6A-FF6B:4174.20.10+1 FF6C-FF6E:4194.20.10+2 FF6F:4182.20.10
FF70-FF71:1E69.20.12+2307 FF72-FF73:4171.20.12+1 FF74-FF94:4174.20.12+1 FF95-FF96:4196.20.12+2
FF97-FF9C:4199.20.12+1 FF9D:41A3.20.12 FF9E:0.37.12 FF9F:0.38.12 FFA0:4088.20.12
FFA1-FFA2:400B.20.12+1 FFA3:40E9.20.12 FFA4-FFA5:400D.20.12+DE FFA6:40EC.20.12
FFA7-FFA9:400E.20.12+1 FFAA-FFAF:40EF.20.12+1 FFB0:4025.20.12 FFB1-FFB3:4011.20.12+1
FFB4:402C.20.12 FFB5-FFBE:4014.20.12+1 FFC2-FFC7:4089.20.12+1 FFCA-FFCF:408F.20.12+1
FFD2-FFD7:4095.20.12+1 FFDA-FFDC:409B.20.12+1 FFE0-FFE1:1E6C.20.3+2 FFE2:6AE.20.3
FFE3-FFE4:4D7.20.3+1D9 FFE5-FFE6:1E6F.20.3+19 FFE8:8AC.20.12 FFE9-FFEA:62D.20.12+2
FFEB-FFEC:62E.20.12+2 FFED-FFEE:94A.20.12+2B FFF9-FFFB: FFFC-FFFD:1E4E+E1AF FFFE:1.1.1 FFFF:FFFF
10000-1000B:4C41+1 1000D-10026:4C4D+1 10028-1003A:4C67+1 1003C-1003D:4C7A+1 1003F-1004D:4C7C+1
10050-1005D:4C8B+1 10080-100FA:4C99+1 10100-10102:322+1 10107-1010F:209D+1 10110-10133:1F0B+1
10137-1013F:1105+1 10140-10141:1F2F+1 10142-10143:209D+4 10144-10147:1F31+1 10148:20A1
10149-1014E:1F35+1 1014F:20A1 10150-10157:1F3B+1 10158-1015A:209D 1015B-1015E:209E 1015F:20A1
10160-10172:1F43+1 10173:20A1 10174-10178:1F56+1 10179-10189:110E+1 1018A:209C 1018B:1F5B
1018C-1018E:111F+1 10190-1019C:1122+1 101A0:112F 101D0-101FC:1130+1 101FD:0.34 10280-1029C:4994+1
102A0-102D0:49B1+1 102E0: 102E1-102E9:209D+1 102EA-102FB:1F5C+1 10300-1030E:49FC+1
1030F-1031E:4A0C+1 1031F:4A0B 10320-10321:209D+4 10322-10323:1F05+1 1032D-1034A:4A1C+1
10350-10375:238B+1 10376-10377:238B.20.4+3 10378-10379:2392.20.4+6 1037A:239C.20.4
10380-1039D:50B7+1 1039F-103A0:325+4DB0 103A1-103C3:50D6+1 103C8-103CF:50F9+1 103D0-103D1:326+1D77
103D2:209E 103D3-103D5:1F6E+1 10400-10427:4A3A.20.8+1 10428-1047F:4A3A+1 10480-1049D:4B1D+1
104A0-104A9:209C+1 104B0-104D3:37BA.20.8+1 104D8-104FB:37BA+1 10500-10527:4B3B+1
10530-10563:4B63+1 1056F:47B 10570-1057A:4B97.20.8+1 1057C-1058A:4BA2.20.8+1
1058C-10592:4BB1.20.8+1 10594-10595:4BB8.20.8+1 10597-105A1:4B97+1 105A3-105B1:4BA2+1
105B3-105B9:4BB1+1 105BB-105BC:4BB8+1 10600-10736:4D14+1 10740-10755:4E4B+1 10760-10767:4E61+1
10780:20A6.20.14;20A6.20.14 10781-10782:1E4F.20.14+1 10783:20A6.20.14;0.11C.14;20D7.20.14
10784-10785:20B5.20.14+7 10787:20C9.20.14;2211.20.14 10788:20C9.20.14;2217.20.14
10789:20C9.20.14;2218.20.14 1078A:20C9.20.14;221C.20.14 1078B-1078C:20CF.20.14+1
1078D-1078E:20D2.20.14+13 1078F:20EB.20.14 10790:20EE.20.14;2163.20.14 10791-10792:20ED.20.14+F
10793-10794:20FF.20.14+1 10795:2106.20.14;0.39.14 10796-10797:2107.20.14+8 10798:2125.20.14
10799:2131.20.14;21B9.20.14 1079A:2131.20.14;2211.20.14 1079B-1079C:213B.20.14+1
1079D-1079E:2142.20.14+4 1079F-107A0:2147.20.14+3 107A1:214B.20.14 107A2:2167.20.14;0.2F.14
107A3-107A4:216B.20.14+16 107A5-107A6:2191.20.14+10 107A7-107A8:21A2.20.14+5 107A9:21AA.20.14
107AA:219A.20.14 107AB:21CE.20.14;20C6.20.14 107AC:21CE.20.14;21B9.20.14
107AD:21CE.20.14;21BE.20.14 107AE:21CE.20.14;21C5.20.14 107AF-107B0:21D5.20.14+24
107B2-107B3:220B.20.14+3C 107B4-107B5:2248.20.14+A 107B6-107B8:224B.20.14+1 107B9:224F.20.14
107BA:21C0.20.14 10800-10805:4E69+1 10808:4E6F 1080A-10835:4E70+1 10837-10838:4E9C+1 1083C:4E9E
1083F-10840:4E9F+112 10841-10855:4FB2+1 10857-10858:2EA+1DB3 10859-1085A:209E+1 1085B-1085F:1F7F+1
10860-1086C:4F70+1 1086D:4F7D.20.19 1086E-10876:4F7D+1 10877-10878:115D+1 10879-1087D:209D+1
1087E-1087F:1F71+1 10880:4F86.20.19 10881:4F86 10882:4F87.20.19 10883-10885:4F87+1
10886:4F8A.20.19 10887-1088B:4F8A+1 1088C:4F8F.20.19 1088D:4F8F 1088E:4F90.20.19 1088F:4F90
10890:4F91.20.19 10891:4F91 10892:4F92.20.19 10893:4F92 10894:4F93.20.19 10895-1089B:4F93+1
1089C:4F9A.20.19 1089D-1089E:4F9A+1 108A7-108AA:209D+1 108AB-108AC:20A0+1 108AD-108AF:1F73+1
108E0-108F2:4F9C+1 108F4-108F5:4FAF+1 108FB-108FC:209D+4 108FD-108FF:1F76+1 10900-10915:2446+1
10916:209D 10917-10919:1F7C+1 1091A-1091B:209E+1 1091F-10920:327+46BB 10921-10939:49E3+1 1093F:321
10980-10986:5995.20.4;0.11C.4+1 10987:599B.20.4;0.11D.4 10988-1098A:599C.20.4;0.11C.4+1
1098B:599E.20.4;0.11D.4 1098C:599F.20.4;0.11C.4 1098D:599F.20.4;0.11D.4 1098E:59A0.20.4;0.11C.4
1098F:59A0.20.4;0.11D.4 10990-10992:59A1.20.4;0.11C.4+1 10993:59A4.20.4;0.11D.4
10994:59A4.20.4;0.11E.4 10995-10998:59A5.20.4;0.11C.4+1 10999:59A8.20.4;0.11D.4
1099A:59A9.20.4;0.11C.4 1099B:59A9.20.4;0.11D.4 1099C-1099D:59AA.20.4;0.11C.4+1 1099E-1099F:59AE+1
109A0-109AF:5995+1 109B0:59A4.20.4;0.11C.4 109B1-109B7:59A5+1 109BC:2081 109BD-109BE:2076+3936
109BF:59AD 109C0-109C8:209D+1 109C9-109CF:204B+1 109D2-109F5:2052+1 109F6-109FF:2077+1
10A00-10A03:2FF6+1 10A05-10A06:2FFA+1 10A0C:2FFC 10A0D:0.34 10A0E:0.C4 10A0F:0.C5
10A10-10A11:2FFD+2 10A12-10A13:3000+1 10A15-10A17:3002+1 10A19-10A1A:3005+1 10A1B-10A1C:3008+2
10A1D-10A2C:300B+1 10A2D-10A31:301C+1 10A32-10A33:2FFE+B 10A34-10A35:3007+14 10A38:0.CD 10A39:0.CE
10A3A:0.CF 10A3F:3021 10A40-10A43:209D+1 10A44-10A48:1FAA+1 10A50-10A55:481+1 10A56-10A57:2B5+1
10A58:487 10A60-10A7C:4F01+1 10A7D:209D 10A7E:1F79 10A7F-10A80:48C+4A92 10A81-10A9C:4F1F+1
10A9D:209D 10A9E-10A9F:1F7A+1 10AC0-10AC7:5018+1 10AC8:501F.20.4;0.11D.4 10AC9-10AE4:5020+1
10AE5:0.33 10AE6:0.34 10AEB-10AEC:209D+4 10AED-10AEF:1F84+1 10AF0-10AF6:48D+1 10B00-10B2D:4F3B+1
10B2E:4F68.20.4;0.11C.4 10B2F-10B35:4F69+1 10B39:48B 10B3A-10B3F:2EB+1 10B40-10B55:4FC7+1
10B58-10B5B:209D+1 10B5C-10B5F:1F87+1 10B60-10B72:4FDD+1 10B78-10B7B:209D+1 10B7C-10B7F:1F8B+1
10B80-10B91:4FF0+1 10B99-10B9C:494+1 10BA9-10BAC:209D+1 10BAD-10BAF:1F8F+1 10C00:3B22
10C01:3B22.20.4;0.11C.4 10C02-10C03:3B23+1 10C04:3B24.20.4;0.11C.4 10C05-10C07:3B25+1
10C08:3B27.20.4;0.11C.4 10C09:3B28 10C0A:3B28.20.4;0.11C.4 10C0B:3B29 10C0C:3B29.20.4;0.11C.4
10C0D:3B2A 10C0E:3B2A.20.4;0.11C.4 10C0F:3B2B 10C10:3B2B.20.4;0.11C.4 10C11:3B2C
10C12:3B2C.20.4;0.11C.4 10C13-10C14:3B2D+1 10C15:3B2E.20.4;0.11C.4 10C16:3B2F
10C17:3B2F.20.4;0.11C.4 10C18:3B30 10C19:3B30.20.4;0.11C.4 10C1A:3B31 10C1B:3B31.20.4;0.11C.4
10C1C:3B32 10C1D:3B32.20.4;0.11C.4 10C1E:3B33 10C1F:3B33.20.4;0.11C.4 10C20-10C24:3B34+1
10C25:3B38.20.4;0.11C.4 10C26:3B39 10C27:3B39.20.4;0.11C.4 10C28:3B3A 10C29:3B3A.20.4;0.11C.4
10C2A:3B3B 10C2B:3B3B.20.4;0.11C.4 10C2C-10C2D:3B3C+1 10C2E:3B3D.20.4;0.11C.4 10C2F-10C32:3B3E+1
10C33:3B41.20.4;0.11C.4 10C34:3B42 10C35:3B42.20.4;0.11C.4 10C36:3B43 10C37:3B43.20.4;0.11C.4
10C38:3B44 10C39:3B44.20.4;0.11C.4 10C3A:3B45 10C3B:3B45.20.4;0.11C.4 10C3C-10C3F:3B46+1
10C40:3B49.20.4;0.11C.4 10C41:3B4A 10C42:3B4A.20.4;0.11C.4 10C43:3B4B 10C44:3B4B.20.4;0.11C.4
10C45:3B4C 10C46:3B4C.20.4;0.11C.4 10C47-10C48:3B4D+1 10C80:3AF9.20.8 10C81:3AF9.20.A;0.11C.4
10C82-10C89:3AFA.20.8+1 10C8A:3B01.20.A;0.11C.4 10C8B:3B01.20.A;0.11D.4 10C8C-10C90:3B02.20.8+1
10C91:3B06.20.A;0.11C.4 10C92-10C9B:3B07.20.8+1 10C9C:3B10.20.A;0.11C.4 10C9D:3B11.20.8
10C9E:3B11.20.A;0.11C.4 10C9F:3B11.20.A;0.11D.4 10CA0-10CA2:3B12.20.8+1 10CA3:3B14.20.A;0.11C.4
10CA4-10CAA:3B15.20.8+1 10CAB:3B1B.20.A;0.11C.4 10CAC:3B1C.20.8 10CAD:3B1C.20.A;0.11C.4
10CAE-10CB2:3B1D.20.8+1 10CC0:3AF9 10CC1:3AF9.20.4;0.11C.4 10CC2-10CC9:3AFA+1
10CCA:3B01.20.4;0.11C.4 10CCB:3B01.20.4;0.11D.4 10CCC-10CD0:3B02+1 10CD1:3B06.20.4;0.11C.4
10CD2-10CDB:3B07+1 10CDC:3B10.20.4;0.11C.4 10CDD:3B11 10CDE:3B11.20.4;0.11C.4
10CDF:3B11.20.4;0.11D.4 10CE0-10CE2:3B12+1 10CE3:3B14.20.4;0.11C.4 10CE4-10CEA:3B15+1
10CEB:3B1B.20.4;0.11C.4 10CEC:3B1C 10CED:3B1C.20.4;0.11C.4 10CEE-10CF2:3B1D+1 10CFA-10CFB:209D+4
10CFC-10CFF:1F07+1 10D00-10D01:3465+6 10D02-10D1C:346C+1 10D1D-10D21:3466+1 10D22-10D23:3487+1
10D24-10D27:0.33 10D30-10D39:209C+1 10E60-10E68:209D+1 10E69-10E7E:1EEE+1 10E80-10EA0:5076+1
10EA1-10EA8:5098+1 10EA9:50A1 10EAB:0.83 10EAC:0.82 10EAD:223 10EB0-10EB1:5097+9 10EFD-10EFF:
10F00:503C 10F01:503C.20.19 10F02:503D 10F03:503D.20.19 10F04-10F05:503E+1 10F06:503F.20.19
10F07-10F0E:5040+1 10F0F:5047.20.19 10F10:5047.20.4;0.11D.4 10F11-10F12:5048+1
10F13:5049.20.4;0.11D.4 10F14-10F15:504A+1 10F16:504B.20.19 10F17:504B.20.4;0.11D.4
10F18-10F1A:504C+1 10F1B:504E.20.19 10F1C:504E.20.4;0.11D.4 10F1D-10F21:209D+1 10F22-10F26:1F92+1
10F27:5049.20.4;504C.20.4 10F30-10F44:504F+1 10F45:5060.20.4;0.11D.4 10F46-10F47:0.34
10F48-10F4A:0.33 10F4B:0.34 10F4C:0.33 10F4D-10F50:0.34 10F51:209D 10F52-10F54:1F97+1
10F55-10F59:2F1+1 10F70-10F81:5064+1 10F82:0.33 10F83:0.34 10F84:0.33 10F85:0.34 10F86-10F89:2F6+1
10FB0-10FC4:50A2+1 10FC5-10FC8:209D+1 10FC9-10FCB:1F9A+1 10FE0-10FF5:5002+1
10FF6:5008.20.4;500B.20.4 11000:0.C3 11001:0.C4 11002:0.C5 11003-11004:2FDC+1 11005-1100E:2FAB+1
1100F-11010:2FB6+1 11011-11033:2FB9+1 11034-11035:2FDE+1 11036-11041:2FE1+1 11042-11043:2FEE+1
11044-11046:2FF1+1 11047-11048:2B7+1 11049-1104D:47C+1 11052-1105A:209D+1 1105B-11065:1F9F+1
11066-1106F:209C+1 11070:2FF5 11071-11072:2FB5+3 11073-11074:2FED+3 11075:2FE0 1107F:2FF4
11080:0.C3 11081:0.C4 11082:0.C5 11083-11099:2B7D+1 1109B:2B94 1109D-110AA:2B95+1
110AC-110B4:2BA3+1 110B5-110B9:2BAD+1 110BA:0.C2 110BB-110BC:498+1 110BD: 110BE-110BF:2FA+1
110C0-110C1:2B9+1 110C2:2BAC 110CD: 110D0-110E8:4BBA+1 110F0-110F9:209C+1 11100:0.C3 11101:0.C4
11102:0.C5 11103-11123:3489+1 11124-11126:34AB+1 11127-1112D:34AF+1 11130-11132:34B8+1
11133-11134:34BD+1 11136-1113F:209C+1 11140:2FC 11141-11142:2BB+1 11143-11144:27D+3231
11145-11146:34BB+1 11147:34AA 11150-1116F:2BB2+1 11170-11172:2BD3+1 11173:0.C2 11174-11175:49A+1
11176:2BD2 11180:0.C3 11181:0.C4 11182:0.C5 11183-111B2:2BD8+1 111B3-111BC:2C0C+1
111BD-111C0:2C17+1 111C1-111C3:2C08+1 111C4:2BD6 111C5-111C6:2BD+1 111C7:49D 111C8:2FD 111C9:0.C6
111CA:0.C2 111CB:0.D0 111CC:0.D1 111CD-111CE:49C+277A 111CF:0.C3 111D0-111D9:209C+1 111DA:2BD7
111DB-111DC:49E+276D 111DD:49F 111DE-111DF:2FE+1 111E1-111E9:209D+1 111EA-111F4:1FB9+1
11200-11201:2C1B+1 11202-11208:2C1E+1 11209-11211:2C26+1 11213-1122F:2C2F+1 11230-11233:2C4D+1
11234:0.C4 11235:2C51 11236:0.C2 11237:0.80 11238-11239:2BF+1 1123A-1123D:4A0+1 1123E:0.81
1123F:2C25 11240-11241:2C1D+2F 11280-11283:2C8B+1 11284-11286:2C91+1 11288:2C94 1128A-1128D:2C95+1
1128F-1129D:2C99+1 1129F-112A4:2CA8+1 112A5-112A6:2C8F+1 112A7-112A8:2CAE+1 112A9:300
112B0-112DE:2C52+1 112DF:0.C4 112E0-112E8:2C81+1 112E9:0.C2 112EA:2C8A 112F0-112F9:209C+1
11300:0.C4 11301:0.C3 11302:0.C4 11303:0.C5 11305-1130B:2CB1+1 1130C:2CB9 1130F-11310:2CBB+1
11313-11328:2CBD+1 1132A-11330:2CD3+1 11332-11333:2CDA+1 11335-11339:2CDC+1 1133B-1133C:0.C2
1133D-1133E:2CE1+3 1133F-11344:2CE5+1 11347-11348:2CED+1 1134D:2CF1 11350:2CB0 11357:2CF2
1135D:2CF3 1135E-1135F:2CE2+1 11360-11361:2CB8+2 11362-11363:2CEB+1 11366-1136C: 11370-11374:
11400-11434:2CF6+1 11435-11442:2D30+1 11443:0.C3 11444:0.C4 11445:0.C5 11446:0.C2
11447-11448:2D2B+3 11449-1144A:2CF4+1 1144B-1144C:2C1+1 1144D-1144E:4A4+2 1144F-11450:4A7+1BF5
11451-11459:209D+1 1145A-1145B:4A5+3 1145D:4A9 1145E:0.C6 1145F:2D2F 11460-11461:2D2C+1
11480-114AF:2D3F+1 114B0-114BA:2D71+1 114BD:2D7E 114BF:0.C3 114C0:0.C4 114C1:0.C5 114C2:2D80
114C3:0.C2 114C4-114C5:2D6F+1 114C6-114C7:4AA+2894 114D0-114D9:209C+1 11580-115B5:2D81+1
115B8-115B9:2DB7+1 115BC:0.C3 115BD:0.C4 115BE:0.C5 115BF:2DBB 115C0:0.C2 115C1:4AB
115C2-115C3:2C3+1 115C4-115D7:4AC+1 115D8:2D83.20.4;0.11C.4 115D9:2D83.20.4;0.11D.4
115DA-115DB:2D84.20.4;0.11C.4+1 115DC-115DD:2DB3.20.4;0.11C.4+1 11600-1163C:2DBC+1 1163D:0.C4
1163E:0.C5 1163F:2DF9 11640:0.C3 11641-11642:2C5+1 11643-11644:4C0+293A 11650-11659:209C+1
11660-1166C:406+1 11680-11689:2DFB+1 1168A-1168B:2E08+1 1168C-116A6:2E0B+1 116A7:2E06
116A8-116A9:2E05+2 116AA:2E26 116AB:0.C4 116AC:0.C5 116AD-116B6:2E27+1 116B7:0.C2 116B8:2E0A
116B9:4C1 116C0-116C9:209C+1 11700-11704:2EDF+1 11705:2EE3.20.4;0.11C.4 11706-11715:2EE4+1
11716:2EF3.20.4;0.11C.4 11717-11719:2EF4+1 1171A:2EE6.20.4;0.11C.4 1171D-1171F:2F0A+1
11720-1172B:2EFE+1 11730-11739:209C+1 1173A-1173B:1F9D+1 1173C-1173D:2C7+1 1173E-1173F:301+2DE
11740-11746:2EF7+1 11800-11836:2EA7+1 11837:0.C4 11838:0.C5 11839:2EDE 1183A:0.C2 1183B:4C2
118A0-118BF:4848.20.8+1 118C0-118DF:4848+1 118E0-118E9:209C+1 118EA-118F2:1FC4+1 118FF:4847
11900-11906:2E31+1 11909:2E38 1190C-11910:2E39+1 11911-11913:2E3F+1 11915-11916:2E42+1
11918-11925:2E44+1 11926-11928:2E53+2 11929-11935:2E58+1 11937:2E65 1193B:0.C4 1193C:0.C3
1193D-1193E:2E67+1 1193F-11940:2E3E+14 11941-11942:2E54+2 11943:0.C2 11944-11945:2C9+1FA 11946:302
11950-11959:209C+1 119A0-119A7:2E69+1 119AA-119D0:2E71+1 119D1-119D7:2E9A+1 119DA-119DB:2EA1+2
119DC-119DD:2EA4+1 119DE:0.C4 119DF:0.C5 119E0:2EA6 119E1:2E98 119E2-119E3:4C4+29D5 119E4:2EA2
11A00-11A0A:31A8+1 11A0B-11A0C:3180+2 11A0D-11A31:3183+1 11A32:3181 11A33:0.C2 11A34:31B3
11A35-11A37:0.C3 11A38:0.C4 11A39:0.C5 11A3A:31A1.20.17 11A3B-11A3E:31A0.20.19+1 11A3F-11A46:443+1
11A47:31B4 11A50-11A53:31B5+1 11A54-11A55:31BB+2 11A56-11A57:31BC+2 11A58:31BF 11A59-11A5A:31B9+1
11A5B-11A5C:31C0+1 11A5D-11A82:31C3+1 11A83-11A84:31C2+27 11A85:31EA 11A86-11A87:31E2.20.17+1
11A88-11A89:31E5.20.17+2 11A8A-11A8B:31C1.20.19+2 11A8C-11A8D:31C6.20.19+B
11A8E-11A8F:31D5.20.19+1 11A90-11A91:31DA.20.19+8 11A92-11A94:31E3.20.19+2 11A95:31E0.20.19
11A96:0.C4 11A97:0.C5 11A98:0.D2 11A99:31EB 11A9A-11A9C:44B+1 11A9D:31EC 11A9E-11AA2:44E+1
11AB0-11ABF:3AA1+1 11AC0-11AD4:486F+1 11AD5-11ADB:4868+1 11ADC-11ADD:4884+1 11ADE:488B
11ADF-11AE3:4886+1 11AE4-11AE5:488C+6 11AE6-11AE7:4890+E 11AE8:4893 11AE9-11AEA:4891+E 11AEB:489A
11AEC-11AED:4898+3 11AEE:4899 11AEF-11AF0:488D+13 11AF1:488F 11AF2-11AF3:488E+8 11AF4-11AF5:4894+8
11AF6:4897 11AF7-11AF8:4895+8 11B00-11B09:418+1 11C00-11C08:3022+1 11C0A-11C2E:302B+1
11C2F-11C36:3051+1 11C38-11C3B:3059+1 11C3C:0.C3 11C3D:0.C4 11C3E:0.C5 11C3F:305D 11C40:3050
11C41-11C42:2CA+1 11C43-11C45:488+1 11C50-11C59:209C+1 11C5A-11C62:209D+1 11C63-11C6C:1FAF+1
11C70-11C71:453+1 11C72-11C88:31ED+2 11C89-11C8F:321A+2 11C92-11CA7:31EE+2 11CA9-11CAF:321B+2
11CB0-11CB4:3228+1 11CB5:0.C4 11CB6:0.C3 11D00-11D06:2F0D+1 11D08-11D09:2F14+1 11D0B-11D36:2F16+1
11D3A:2F42 11D3C-11D3D:2F43+1 11D3F:2F45 11D40:0.C4 11D41:0.C5 11D42:0.C2 11D43:0.C3
11D44-11D45:2F46+1 11D46:2F31.20.17 11D47:2F31.20.19 11D50-11D59:209C+1 11D60-11D65:2F49+1
11D67-11D68:2F4F+1 11D6A-11D8E:2F51+1 11D90-11D91:2F76+1 11D93-11D94:2F78+1 11D95:0.C4 11D96:0.C5
11D97:2F7A 11D98:2F48 11DA0-11DA9:209C+1 11EE0-11EF6:333B+1 11EF7-11EF8:303+1 11F00:0.C3
11F01:0.C4 11F02:36A8 11F03:0.C5 11F04-11F10:3680+1 11F12-11F2C:368D+1 11F2D-11F3A:36A9+1
11F3E-11F42:36B7+1 11F43-11F44:2CC+1 11F45-11F4F:305+1 11F50-11F59:209C+1 11FB0:47AB
11FC0-11FD4:1EB8+1 11FD5-11FDC:591+1 11FDD-11FE0:1E7A+1 11FE1-11FF1:599+1 11FFF-12000:4C5+4C3C
12001-12262:5102+1 12263-122D3:5366+1 122D4-122D5:5364+1 122D6-12399:53D7+1 12400-12407:209E+1
12408-1240E:209F+1 1240F-12414:20A0+1 12415-1241D:209D+1 1241E-12422:209D+1 12423-12424:209E+1
12425-1242B:209F+1 1242C-1242E:209D+1 1242F-12431:209F+1 12432-12433:2082+1 12434-12436:209D+1
12437-12439:209F+1 1243A-1243B:209F 1243C-1243F:20A0 12440-12441:20A2+1 12442-12443:20A3
12444-12445:20A4 12446-12449:20A5 1244A-1244E:209E+1 1244F-12452:209D+1 12453-12454:20A0+1
12455:20A1 12456-12457:209E+1 12458-12459:209D+1 1245A-12468:2084+1 12469-1246E:20A0+1
12470-12474:328+1 12480-12543:549B+1 12F90-12FF0:4EA0+1 12FF1-12FF2:32D+1 13000-1342F:555F+1
13430-13440: 13441-13446:598F+1 13447-13455: 14400-14646:59B0+1 16800-16A38:3CAC+1
16A40-16A5E:4BD3+1 16A60-16A69:209C+1 16A6E-16A6F:2CE+1 16A70-16ABE:4BF2+1 16AC0-16AC9:209C+1
16AD0-16AED:3EE5+1 16AF0:0.B8 16AF1:0.B9 16AF2:0.BA 16AF3:0.BB 16AF4:0.BC 16AF5:292
16B00-16B2F:48A1+1 16B30:0.F7 16B31:0.F8 16B32:0.F9 16B33:0.FA 16B34:0.FB 16B35:0.FC 16B36:0.FD
16B37-16B3B:4C6+1 16B3C-16B3F:115F+1 16B40-16B41:48D1+1 16B42-16B43:1E5C+1 16B44-16B45:4CB+C98
16B50-16B59:209C+1 16B5B-16B61:1FCD+1 16B63-16B77:48D3+1 16B7D-16B8F:48E8+1
16E40-16E5F:3FC8.20.8+1 16E60-16E7F:3FC8+1 16E80-16E89:209C+1 16E8A-16E93:1FD4+1
16E94-16E95:209D.20.4;0.11C.4+1 16E96:209F;0.11C 16E97-16E98:236+5D 16E99-16E9A:4CC+1
16F00-16F03:47B6+1 16F04-16F05:47BB+1 16F06:47BB.20.4 16F07-16F0D:47BD+1 16F0E-16F0F:47C5+1
16F10-16F12:47C8+1 16F13:47C8.20.4 16F14-16F24:47CB+1 16F25:47DA.20.4 16F26-16F32:47DC+1
16F33-16F34:47EA+2 16F35-16F39:47ED+1 16F3A-16F3E:47F3+1 16F3F:47F6.20.4 16F40-16F44:47F8+1
16F45-16F46:47BA+31 16F47:47E9 16F48-16F49:47C4+2E 16F4A:47C7 16F4F:4801 16F50-16F53:47FD+1
16F54-16F58:4802+1 16F59-16F5C:4808+1 16F5D-16F60:480D+1 16F61-16F65:4812+1 16F66-16F6D:4818+1
16F6E-16F72:4822+1 16F73-16F74:4828+1 16F75-16F7E:482C+1 16F7F-16F80:4820+7 16F81-16F82:4807+24
16F83-16F84:480C+5 16F85:482A 16F86-16F87:4817+A 16F8F-16F9F:4836+1 16FE0-16FE1:1E62+1
16FE2-16FE3:23A+1C2A 16FE4: 16FF0:0.10C 16FF1:0.10D 1AFF0-1AFF3:549+1 1AFF5-1AFFB:54D+1
1AFFD-1AFFE:554+1 1B000:4173.20.11 1B001:41B1 1B002-1B00E:41A4+1 1B00F-1B11E:41B2+1
1B11F:41A0.20.E 1B120-1B121:4195+2 1B122:41A0.20.11 1B132:417A.20.D 1B150-1B151:419F.20.D+2
1B152:41A2.20.D 1B155:417A.20.F 1B164-1B165:419F.20.F+2 1B166-1B167:41A2.20.F+1 1BC00-1BC6A:4A92+1
1BC70-1BC7C:4AFD+1 1BC80-1BC88:4B0A+1 1BC90-1BC99:4B13+1 1BC9C:13CB 1BC9D:0.33 1BC9E:0.35
1BC9F:294 1BCA0-1BCA3: 1CF00-1CF2D: 1CF30-1CF46: 1CF50-1CFC3:1165+1 1D000-1D0F5:11D9+1
1D100-1D126:12CF+1 1D129:1309 1D12A-1D139:12F9+1 1D13A-1D15D:130A+1 1D165-1D169:
1D16A-1D16C:132E+1 1D16D-1D182: 1D183-1D184:1331+1 1D185-1D18B: 1D18C-1D1A9:1333+1 1D1AA-1D1AD:
1D1AE-1D1BA:1351+1 1D1C1-1D1EA:135E+1 1D200-1D241:1388+1 1D242-1D244: 1D245:13CA
1D2C0-1D2C9:209C+1 1D2CA-1D2D3:1FDE+1 1D2E0-1D2E9:209C+1 1D2EA-1D2F3:1FE8+1 1D300-1D356:1077+1
1D360-1D368:209D+1 1D369-1D371:2093+1 1D372-1D376:209D+1 1D377-1D378:209D+4
1D400-1D401:20A6.20.B+E 1D402-1D403:20BF.20.B+A 1D404-1D405:20D7.20.B+17 1D406-1D407:20F7.20.B+F
1D408-1D409:2112.20.B+D 1D40A-1D40B:2126.20.B+B 1D40C-1D40D:214C.20.B+9 1D40E-1D40F:2167.20.B+1E
1D410-1D411:2191.20.B+7 1D412-1D413:21B9.20.B+15 1D414-1D415:21DC.20.B+18 1D416-1D417:21FD.20.B+4
1D418-1D419:220A.20.B+7 1D41A-1D41B:20A6.20.5+E 1D41C-1D41D:20BF.20.5+A 1D41E-1D41F:20D7.20.5+17
1D420-1D421:20F7.20.5+F 1D422-1D423:2112.20.5+D 1D424-1D425:2126.20.5+B 1D426-1D427:214C.20.5+9
1D428-1D429:2167.20.5+1E 1D42A-1D42B:2191.20.5+7 1D42C-1D42D:21B9.20.5+15 1D42E-1D42F:21DC.20.5+18
1D430-1D431:21FD.20.5+4 1D432-1D433:220A.20.5+7 1D434-1D435:20A6.20.B+E 1D436-1D437:20BF.20.B+A
1D438-1D439:20D7.20.B+17 1D43A-1D43B:20F7.20.B+F 1D43C-1D43D:2112.20.B+D 1D43E-1D43F:2126.20.B+B
1D440-1D441:214C.20.B+9 1D442-1D443:2167.20.B+1E 1D444-1D445:2191.20.B+7 1D446-1D447:21B9.20.B+15
1D448-1D449:21DC.20.B+18 1D44A-1D44B:21FD.20.B+4 1D44C-1D44D:220A.20.B+7 1D44E-1D44F:20A6.20.5+E
1D450-1D451:20BF.20.5+A 1D452-1D453:20D7.20.5+17 1D454:20F7.20.5 1D456-1D457:2112.20.5+D
1D458-1D459:2126.20.5+B 1D45A-1D45B:214C.20.5+9 1D45C-1D45D:2167.20.5+1E 1D45E-1D45F:2191.20.5+7
1D460-1D461:21B9.20.5+15 1D462-1D463:21DC.20.5+18 1D464-1D465:21FD.20.5+4 1D466-1D467:220A.20.5+7
1D468-1D469:20A6.20.B+E 1D46A-1D46B:20BF.20.B+A 1D46C-1D46D:20D7.20.B+17 1D46E-1D46F:20F7.20.B+F
1D470-1D471:2112.20.B+D 1D472-1D473:2126.20.B+B 1D474-1D475:214C.20.B+9 1D476-1D477:2167.20.B+1E
1D478-1D479:2191.20.B+7 1D47A-1D47B:21B9.20.B+15 1D47C-1D47D:21DC.20.B+18 1D47E-1D47F:21FD.20.B+4
1D480-1D481:220A.20.B+7 1D482-1D483:20A6.20.5+E 1D484-1D485:20BF.20.5+A 1D486-1D487:20D7.20.5+17
1D488-1D489:20F7.20.5+F 1D48A-1D48B:2112.20.5+D 1D48C-1D48D:2126.20.5+B 1D48E-1D48F:214C.20.5+9
1D490-1D491:2167.20.5+1E 1D492-1D493:2191.20.5+7 1D494-1D495:21B9.20.5+15 1D496-1D497:21DC.20.5+18
1D498-1D499:21FD.20.5+4 1D49A-1D49B:220A.20.5+7 1D49C:20A6.20.B 1D49E-1D49F:20BF.20.B+A
1D4A2:20F7.20.B 1D4A5-1D4A6:211F.20.B+7 1D4A9-1D4AA:2155.20.B+12 1D4AB-1D4AC:2185.20.B+C
1D4AE-1D4AF:21B9.20.B+15 1D4B0-1D4B1:21DC.20.B+18 1D4B2-1D4B3:21FD.20.B+4 1D4B4-1D4B5:220A.20.B+7
1D4B6-1D4B7:20A6.20.5+E 1D4B8-1D4B9:20BF.20.5+A 1D4BB:20EE.20.5 1D4BD-1D4BE:2106.20.5+C
1D4BF-1D4C0:211F.20.5+7 1D4C1-1D4C2:2131.20.5+1B 1D4C3:2155.20.5 1D4C5-1D4C6:2185.20.5+C
1D4C7-1D4C8:2198.20.5+21 1D4C9-1D4CA:21CE.20.5+E 1D4CB-1D4CC:21F4.20.5+9 1D4CD-1D4CE:2201.20.5+9
1D4CF:2211.20.5 1D4D0-1D4D1:20A6.20.B+E 1D4D2-1D4D3:20BF.20.B+A 1D4D4-1D4D5:20D7.20.B+17
1D4D6-1D4D7:20F7.20.B+F 1D4D8-1D4D9:2112.20.B+D 1D4DA-1D4DB:2126.20.B+B 1D4DC-1D4DD:214C.20.B+9
1D4DE-1D4DF:2167.20.B+1E 1D4E0-1D4E1:2191.20.B+7 1D4E2-1D4E3:21B9.20.B+15 1D4E4-1D4E5:21DC.20.B+18
1D4E6-1D4E7:21FD.20.B+4 1D4E8-1D4E9:220A.20.B+7 1D4EA-1D4EB:20A6.20.5+E 1D4EC-1D4ED:20BF.20.5+A
1D4EE-1D4EF:20D7.20.5+17 1D4F0-1D4F1:20F7.20.5+F 1D4F2-1D4F3:2112.20.5+D 1D4F4-1D4F5:2126.20.5+B
1D4F6-1D4F7:214C.20.5+9 1D4F8-1D4F9:2167.20.5+1E 1D4FA-1D4FB:2191.20.5+7 1D4FC-1D4FD:21B9.20.5+15
1D4FE-1D4FF:21DC.20.5+18 1D500-1D501:21FD.20.5+4 1D502-1D503:220A.20.5+7 1D504-1D505:20A6.20.B+E
1D507-1D508:20C9.20.B+E 1D509-1D50A:20EE.20.B+9 1D50D-1D50E:211F.20.B+7 1D50F-1D510:2131.20.B+1B
1D511-1D512:2155.20.B+12 1D513-1D514:2185.20.B+C 1D516-1D517:21B9.20.B+15 1D518-1D519:21DC.20.B+18
1D51A-1D51B:21FD.20.B+4 1D51C:220A.20.B 1D51E-1D51F:20A6.20.5+E 1D520-1D521:20BF.20.5+A
1D522-1D523:20D7.20.5+17 1D524-1D525:20F7.20.5+F 1D526-1D527:2112.20.5+D 1D528-1D529:2126.20.5+B
1D52A-1D52B:214C.20.5+9 1D52C-1D52D:2167.20.5+1E 1D52E-1D52F:2191.20.5+7 1D530-1D531:21B9.20.5+15
1D532-1D533:21DC.20.5+18 1D534-1D535:21FD.20.5+4 1D536-1D537:220A.20.5+7 1D538-1D539:20A6.20.B+E
1D53B-1D53C:20C9.20.B+E 1D53D-1D53E:20EE.20.B+9 1D540-1D541:2112.20.B+D 1D542-1D543:2126.20.B+B
1D544:214C.20.B 1D546:2167.20.B 1D54A-1D54B:21B9.20.B+15 1D54C-1D54D:21DC.20.B+18
1D54E-1D54F:21FD.20.B+4 1D550:220A.20.B 1D552-1D553:20A6.20.5+E 1D554-1D555:20BF.20.5+A
1D556-1D557:20D7.20.5+17 1D558-1D559:20F7.20.5+F 1D55A-1D55B:2112.20.5+D 1D55C-1D55D:2126.20.5+B
1D55E-1D55F:214C.20.5+9 1D560-1D561:2167.20.5+1E 1D562-1D563:2191.20.5+7 1D564-1D565:21B9.20.5+15
1D566-1D567:21DC.20.5+18 1D568-1D569:21FD.20.5+4 1D56A-1D56B:220A.20.5+7 1D56C-1D56D:20A6.20.B+E
1D56E-1D56F:20BF.20.B+A 1D570-1D571:20D7.20.B+17 1D572-1D573:20F7.20.B+F 1D574-1D575:2112.20.B+D
1D576-1D577:2126.20.B+B 1D578-1D579:214C.20.B+9 1D57A-1D57B:2167.20.B+1E 1D57C-1D57D:2191.20.B+7
1D57E-1D57F:21B9.20.B+15 1D580-1D581:21DC.20.B+18 1D582-1D583:21FD.20.B+4 1D584-1D585:220A.20.B+7
1D586-1D587:20A6.20.5+E 1D588-1D589:20BF.20.5+A 1D58A-1D58B:20D7.20.5+17 1D58C-1D58D:20F7.20.5+F
1D58E-1D58F:2112.20.5+D 1D590-1D591:2126.20.5+B 1D592-1D593:214C.20.5+9 1D594-1D595:2167.20.5+1E
1D596-1D597:2191.20.5+7 1D598-1D599:21B9.20.5+15 1D59A-1D59B:21DC.20.5+18 1D59C-1D59D:21FD.20.5+4
1D59E-1D59F:220A.20.5+7 1D5A0-1D5A1:20A6.20.B+E 1D5A2-1D5A3:20BF.20.B+A 1D5A4-1D5A5:20D7.20.B+17
1D5A6-1D5A7:20F7.20.B+F 1D5A8-1D5A9:2112.20.B+D 1D5AA-1D5AB:2126.20.B+B 1D5AC-1D5AD:214C.20.B+9
1D5AE-1D5AF:2167.20.B+1E 1D5B0-1D5B1:2191.20.B+7 1D5B2-1D5B3:21B9.20.B+15 1D5B4-1D5B5:21DC.20.B+18
1D5B6-1D5B7:21FD.20.B+4 1D5B8-1D5B9:220A.20.B+7 1D5BA-1D5BB:20A6.20.5+E 1D5BC-1D5BD:20BF.20.5+A
1D5BE-1D5BF:20D7.20.5+17 1D5C0-1D5C1:20F7.20.5+F 1D5C2-1D5C3:2112.20.5+D 1D5C4-1D5C5:2126.20.5+B
1D5C6-1D5C7:214C.20.5+9 1D5C8-1D5C9:2167.20.5+1E 1D5CA-1D5CB:2191.20.5+7 1D5CC-1D5CD:21B9.20.5+15
1D5CE-1D5CF:21DC.20.5+18 1D5D0-1D5D1:21FD.20.5+4 1D5D2-1D5D3:220A.20.5+7 1D5D4-1D5D5:20A6.20.B+E
1D5D6-1D5D7:20BF.20.B+A 1D5D8-1D5D9:20D7.20.B+17 1D5DA-1D5DB:20F7.20.B+F 1D5DC-1D5DD:2112.20.B+D
1D5DE-1D5DF:2126.20.B+B 1D5E0-1D5E1:214C.20.B+9 1D5E2-1D5E3:2167.20.B+1E 1D5E4-1D5E5:2191.20.B+7
1D5E6-1D5E7:21B9.20.B+15 1D5E8-1D5E9:21DC.20.B+18 1D5EA-1D5EB:21FD.20.B+4 1D5EC-1D5ED:220A.20.B+7
1D5EE-1D5EF:20A6.20.5+E 1D5F0-1D5F1:20BF.20.5+A 1D5F2-1D5F3:20D7.20.5+17 1D5F4-1D5F5:20F7.20.5+F
1D5F6-1D5F7:2112.20.5+D 1D5F8-1D5F9:2126.20.5+B 1D5FA-1D5FB:214C.20.5+9 1D5FC-1D5FD:2167.20.5+1E
1D5FE-1D5FF:2191.20.5+7 1D600-1D601:21B9.20.5+15 1D602-1D603:21DC.20.5+18 1D604-1D605:21FD.20.5+4
1D606-1D607:220A.20.5+7 1D608-1D609:20A6.20.B+E 1D60A-1D60B:20BF.20.B+A 1D60C-1D60D:20D7.20.B+17
1D60E-1D60F:20F7.20.B+F 1D610-1D611:2112.20.B+D 1D612-1D613:2126.20.B+B 1D614-1D615:214C.20.B+9
1D616-1D617:2167.20.B+1E 1D618-1D619:2191.20.B+7 1D61A-1D61B:21B9.20.B+15 1D61C-1D61D:21DC.20.B+18
1D61E-1D61F:21FD.20.B+4 1D620-1D621:220A.20.B+7 1D622-1D623:20A6.20.5+E 1D624-1D625:20BF.20.5+A
1D626-1D627:20D7.20.5+17 1D628-1D629:20F7.20.5+F 1D62A-1D62B:2112.20.5+D 1D62C-1D62D:2126.20.5+B
1D62E-1D62F:214C.20.5+9 1D630-1D631:2167.20.5+1E 1D632-1D633:2191.20.5+7 1D634-1D635:21B9.20.5+15
1D636-1D637:21DC.20.5+18 1D638-1D639:21FD.20.5+4 1D63A-1D63B:220A.20.5+7 1D63C-1D63D:20A6.20.B+E
1D63E-1D63F:20BF.20.B+A 1D640-1D641:20D7.20.B+17 1D642-1D643:20F7.20.B+F 1D644-1D645:2112.20.B+D
1D646-1D647:2126.20.B+B 1D648-1D649:214C.20.B+9 1D64A-1D64B:2167.20.B+1E 1D64C-1D64D:2191.20.B+7
1D64E-1D64F:21B9.20.B+15 1D650-1D651:21DC.20.B+18 1D652-1D653:21FD.20.B+4 1D654-1D655:220A.20.B+7
1D656-1D657:20A6.20.5+E 1D658-1D659:20BF.20.5+A 1D65A-1D65B:20D7.20.5+17 1D65C-1D65D:20F7.20.5+F
1D65E-1D65F:2112.20.5+D 1D660-1D661:2126.20.5+B 1D662-1D663:214C.20.5+9 1D664-1D665:2167.20.5+1E
1D666-1D667:2191.20.5+7 1D668-1D669:21B9.20.5+15 1D66A-1D66B:21DC.20.5+18 1D66C-1D66D:21FD.20.5+4
1D66E-1D66F:220A.20.5+7 1D670-1D671:20A6.20.B+E 1D672-1D673:20BF.20.B+A 1D674-1D675:20D7.20.B+17
1D676-1D677:20F7.20.B+F 1D678-1D679:2112.20.B+D 1D67A-1D67B:2126.20.B+B 1D67C-1D67D:214C.20.B+9
1D67E-1D67F:2167.20.B+1E 1D680-1D681:2191.20.B+7 1D682-1D683:21B9.20.B+15 1D684-1D685:21DC.20.B+18
1D686-1D687:21FD.20.B+4 1D688-1D689:220A.20.B+7 1D68A-1D68B:20A6.20.5+E 1D68C-1D68D:20BF.20.5+A
1D68E-1D68F:20D7.20.5+17 1D690-1D691:20F7.20.5+F 1D692-1D693:2112.20.5+D 1D694-1D695:2126.20.5+B
1D696-1D697:214C.20.5+9 1D698-1D699:2167.20.5+1E 1D69A-1D69B:2191.20.5+7 1D69C-1D69D:21B9.20.5+15
1D69E-1D69F:21DC.20.5+18 1D6A0-1D6A1:21FD.20.5+4 1D6A2-1D6A3:220A.20.5+7 1D6A4-1D6A5:2113.20.5+D
1D6A8-1D6AA:2255.20.B+1 1D6AB-1D6AC:2259.20.B+1 1D6AD-1D6AE:225E.20.B+2 1D6AF-1D6B0:2261.20.B+1
1D6B1-1D6B2:2264.20.B+1 1D6B3-1D6B7:2267.20.B+1 1D6B8:2270.20.B 1D6B9-1D6BA:2261.20.B+12
1D6BB-1D6BF:2277.20.B+1 1D6C0:227D.20.B 1D6C1-1D6C2:69D.20.5+1BB8 1D6C3-1D6C4:2256.20.5+1
1D6C5-1D6C6:2259.20.5+1 1D6C7-1D6C8:225E.20.5+2 1D6C9-1D6CA:2261.20.5+1 1D6CB-1D6CC:2264.20.5+1
1D6CD-1D6D1:2267.20.5+1 1D6D2-1D6D3:2270.20.5+3 1D6D4-1D6D5:2273.20.5+4 1D6D6-1D6D9:2278.20.5+1
1D6DA:227D.20.5 1D6DB-1D6DC:699.20.5+1BC1 1D6DD-1D6DE:2261.20.5+3 1D6DF:2279.20.5 1D6E0:2270.20.5
1D6E1:226B.20.5 1D6E2-1D6E4:2255.20.B+1 1D6E5-1D6E6:2259.20.B+1 1D6E7-1D6E8:225E.20.B+2
1D6E9-1D6EA:2261.20.B+1 1D6EB-1D6EC:2264.20.B+1 1D6ED-1D6F1:2267.20.B+1 1D6F2:2270.20.B
1D6F3-1D6F4:2261.20.B+12 1D6F5-1D6F9:2277.20.B+1 1D6FA:227D.20.B 1D6FB-1D6FC:69D.20.5+1BB8
1D6FD-1D6FE:2256.20.5+1 1D6FF-1D700:2259.20.5+1 1D701-1D702:225E.20.5+2 1D703-1D704:2261.20.5+1
1D705-1D706:2264.20.5+1 1D707-1D70B:2267.20.5+1 1D70C-1D70D:2270.20.5+3 1D70E-1D70F:2273.20.5+4
1D710-1D713:2278.20.5+1 1D714:227D.20.5 1D715-1D716:699.20.5+1BC1 1D717-1D718:2261.20.5+3
1D719:2279.20.5 1D71A:2270.20.5 1D71B:226B.20.5 1D71C-1D71E:2255.20.B+1 1D71F-1D720:2259.20.B+1
1D721-1D722:225E.20.B+2 1D723-1D724:2261.20.B+1 1D725-1D726:2264.20.B+1 1D727-1D72B:2267.20.B+1
1D72C:2270.20.B 1D72D-1D72E:2261.20.B+12 1D72F-1D733:2277.20.B+1 1D734:227D.20.B
1D735-1D736:69D.20.5+1BB8 1D737-1D738:2256.20.5+1 1D739-1D73A:2259.20.5+1 1D73B-1D73C:225E.20.5+2
1D73D-1D73E:2261.20.5+1 1D73F-1D740:2264.20.5+1 1D741-1D745:2267.20.5+1 1D746-1D747:2270.20.5+3
1D748-1D749:2273.20.5+4 1D74A-1D74D:2278.20.5+1 1D74E:227D.20.5 1D74F-1D750:699.20.5+1BC1
1D751-1D752:2261.20.5+3 1D753:2279.20.5 1D754:2270.20.5 1D755:226B.20.5 1D756-1D758:2255.20.B+1
1D759-1D75A:2259.20.B+1 1D75B-1D75C:225E.20.B+2 1D75D-1D75E:2261.20.B+1 1D75F-1D760:2264.20.B+1
1D761-1D765:2267.20.B+1 1D766:2270.20.B 1D767-1D768:2261.20.B+12 1D769-1D76D:2277.20.B+1
1D76E:227D.20.B 1D76F-1D770:69D.20.5+1BB8 1D771-1D772:2256.20.5+1 1D773-1D774:2259.20.5+1
1D775-1D776:225E.20.5+2 1D777-1D778:2261.20.5+1 1D779-1D77A:2264.20.5+1 1D77B-1D77F:2267.20.5+1
1D780-1D781:2270.20.5+3 1D782-1D783:2273.20.5+4 1D784-1D787:2278.20.5+1 1D788:227D.20.5
1D789-1D78A:699.20.5+1BC1 1D78B-1D78C:2261.20.5+3 1D78D:2279.20.5 1D78E:2270.20.5 1D78F:226B.20.5
1D790-1D792:2255.20.B+1 1D793-1D794:2259.20.B+1 1D795-1D796:225E.20.B+2 1D797-1D798:2261.20.B+1
1D799-1D79A:2264.20.B+1 1D79B-1D79F:2267.20.B+1 1D7A0:2270.20.B 1D7A1-1D7A2:2261.20.B+12
1D7A3-1D7A7:2277.20.B+1 1D7A8:227D.20.B 1D7A9-1D7AA:69D.20.5+1BB8 1D7AB-1D7AC:2256.20.5+1
1D7AD-1D7AE:2259.20.5+1 1D7AF-1D7B0:225E.20.5+2 1D7B1-1D7B2:2261.20.5+1 1D7B3-1D7B4:2264.20.5+1
1D7B5-1D7B9:2267.20.5+1 1D7BA-1D7BB:2270.20.5+3 1D7BC-1D7BD:2273.20.5+4 1D7BE-1D7C1:2278.20.5+1
1D7C2:227D.20.5 1D7C3-1D7C4:699.20.5+1BC1 1D7C5-1D7C6:2261.20.5+3 1D7C7:2279.20.5 1D7C8:2270.20.5
1D7C9:226B.20.5 1D7CA:225B.20.B 1D7CB:225B.20.5 1D7CE-1D7D7:209C.20.5+1 1D7D8-1D7E1:209C.20.5+1
1D7E2-1D7EB:209C.20.5+1 1D7EC-1D7F5:209C.20.5+1 1D7F6-1D7FF:209C.20.5+1 1D800-1D9FF:1BF8+1
1DA00-1DA36: 1DA37-1DA3A:1DF8+1 1DA3B-1DA6C: 1DA6D-1DA74:1DFC+1 1DA75: 1DA76-1DA83:1E04+1 1DA84:
1DA85-1DA86:1E12+1 1DA87-1DA8B:4CE+1 1DA9B-1DA9F: 1DAA1-1DAAF: 1DF00:20EE.20.4;2163.20.4;0.11C.4
1DF01-1DF02:20FA+8 1DF03-1DF04:212E+E 1DF05-1DF06:2147+4 1DF07-1DF08:2166+3C 1DF09-1DF0A:21D7+78
1DF0B-1DF0C:21CC+1 1DF0D-1DF0E:21DB+6F 1DF0F:2251 1DF10-1DF11:2130+13 1DF12:20C9.20.4;221F.20.4
1DF13-1DF14:213D+28 1DF15:21B5 1DF16:21AC 1DF17:21CE.20.4;21C7.20.4 1DF18:221F
1DF19:20C9.20.4;2220.20.4 1DF1A-1DF1B:211A+5A 1DF1C:21CE.20.4;21C8.20.4 1DF1D-1DF1E:20C4+FC
1DF25-1DF26:20D1+70 1DF27-1DF28:215F+49 1DF29-1DF2A:21BF+17 1E000-1E006:235B.20.4+1
1E008-1E018:2363.20.4+1 1E01B-1E021:2376.20.4+1 1E023-1E024:237E.20.4+1 1E026-1E02A:2381.20.4+1
1E030-1E031:22BE.20.14+3 1E032-1E033:22C2.20.14+1 1E034-1E035:22C8.20.14+7
1E036-1E037:22D1.20.14+4 1E038-1E039:22E0.20.14+7 1E03A-1E03B:22EF.20.14+A
1E03C-1E03D:2305.20.14+2 1E03E-1E040:230B.20.14+3 1E041-1E042:2317.20.14+5
1E043-1E044:231D.20.14+C 1E045-1E046:232E.20.14+A 1E047-1E048:2340.20.14+5 1E049:2346.20.14
1E04A:22DD.20.14 1E04B-1E04C:22BF.20.14+23 1E04D-1E04E:22E5.20.14+21 1E04F-1E050:2318.20.14+42
1E051-1E052:22BE.20.15+3 1E053-1E054:22C2.20.15+1 1E055-1E056:22C8.20.15+7
1E057-1E058:22D1.20.15+4 1E059-1E05A:22E0.20.15+7 1E05B-1E05C:22EF.20.15+16
1E05D-1E05E:2307.20.15+7 1E05F-1E060:2317.20.15+5 1E061-1E062:231D.20.15+C
1E063-1E064:232E.20.15+A 1E065-1E066:233E.20.15+2 1E067:22C3;0.11D 1E068:22E2.20.15
1E069-1E06A:22DA.20.15+5D 1E06B-1E06C:2310.20.14+2F 1E06D:2319.20.14 1E08F:22E2.20.4
1E100-1E12C:48FB+1 1E130:0.FB 1E131:0.F7 1E132:0.F9 1E133:0.FA 1E134:0.FC 1E135:0.FD 1E136:0.F8
1E137-1E13B:4928+1 1E13C-1E13D:1E5E+1 1E140-1E149:209C+1 1E14E:492D 1E14F:1164 1E290-1E2AD:492E+1
1E2AE:0.33 1E2C0-1E2EB:494C+1 1E2EC:0.FE 1E2ED:0.FF 1E2EE:0.100 1E2EF:0.101 1E2F0-1E2F9:209C+1
1E2FF:1E80 1E4D0-1E4EB:4978+1 1E4EC:0.102 1E4ED:0.103 1E4EE:0.104 1E4EF:0.105 1E4F0-1E4F9:209C+1
1E7E0-1E7E6:27F8+2 1E7E8-1E7E9:2701+2 1E7EA-1E7EB:2706+2 1E7ED-1E7EE:264E+2 1E7F0-1E7F1:2686+3
1E7F2-1E7F3:268B+17 1E7F4-1E7F5:26A4+4F 1E7F6-1E7F7:26F6+2 1E7F8-1E7F9:2762+3 1E7FA-1E7FB:2767+50
1E7FC-1E7FD:27B9+C 1E7FE:27C7 1E800-1E8C4:3F03+1 1E8C7-1E8CF:209D+1 1E8D0-1E8D6:
1E900-1E921:3FE8.20.8+1 1E922-1E943:3FE8+1 1E944-1E946:0.BD 1E947:0.BF 1E948:0.C0 1E949:0.C1
1E94A:0.BE 1E94B:400A 1E950-1E959:209C+1 1E95E-1E95F:26E+10 1EC71-1EC79:209D+1 1EC7A-1ECA2:1FF2+1
1ECA3-1ECAB:209D+1 1ECAC-1ECAD:13CC+C4F 1ECAE-1ECAF:201C+1 1ECB0:1E99
1ECB1-1ECB2:209D.20.4;0.11C.4+1 1ECB3-1ECB4:201E+1 1ED01-1ED09:209D+1 1ED0A-1ED2D:2020+1
1ED2E:13CD 1ED2F-1ED36:209E.20.4;0.11C.4+1 1ED37-1ED3D:2044+1 1EE00-1EE01:2484.20.5+2
1EE02-1EE03:24A1.20.5+16 1EE05:2541.20.5 1EE06:24C7.20.5 1EE07-1EE08:24AC.20.5+3E 1EE09:2550.20.5
1EE0A-1EE0B:250C.20.5+18 1EE0C-1EE0D:252C.20.5+4 1EE0E-1EE0F:24D9.20.5+17 1EE10:24F9.20.5
1EE11-1EE12:24E4.20.5+21 1EE13-1EE14:24C6.20.5+14 1EE15-1EE16:2497.20.5+1 1EE17-1EE18:24AD.20.5+B
1EE19-1EE1B:24E5.20.5+6 1EE1C-1EE1D:2485.20.5+AC 1EE1E-1EE1F:24FA.20.5+A 1EE21-1EE22:2486.20.5+1B
1EE24:253B.20.5 1EE27:24AC.20.5 1EE29:2550.20.5 1EE2A-1EE2B:250C.20.5+18 1EE2C-1EE2D:252C.20.5+4
1EE2E-1EE2F:24D9.20.5+17 1EE30:24F9.20.5 1EE31-1EE32:24E4.20.5+21 1EE34:24DA.20.5
1EE35-1EE36:2497.20.5+1 1EE37:24AD.20.5 1EE39:24E5.20.5 1EE3B:24F1.20.5 1EE42:24A1.20.5
1EE47:24AC.20.5 1EE49:2550.20.5 1EE4B:2524.20.5 1EE4D:2530.20.5 1EE4E-1EE4F:24D9.20.5+17
1EE51-1EE52:24E4.20.5+21 1EE54:24DA.20.5 1EE57:24AD.20.5 1EE59:24E5.20.5 1EE5B:24F1.20.5
1EE5D:2531.20.5 1EE5F:2504.20.5 1EE61-1EE62:2486.20.5+1B 1EE64:253B.20.5 1EE67-1EE68:24AC.20.5+3E
1EE69:2550.20.5 1EE6A:250C.20.5 1EE6C-1EE6D:252C.20.5+4 1EE6E-1EE6F:24D9.20.5+17 1EE70:24F9.20.5
1EE71-1EE72:24E4.20.5+21 1EE74:24DA.20.5 1EE75-1EE76:2497.20.5+1 1EE77:24AD.20.5
1EE79-1EE7B:24E5.20.5+6 1EE7C:2485.20.5 1EE7E:24FA.20.5 1EE80-1EE81:2484.20.5+2
1EE82-1EE83:24A1.20.5+16 1EE84-1EE85:253B.20.5+6 1EE86:24C7.20.5 1EE87-1EE88:24AC.20.5+3E
1EE89:2550.20.5 1EE8B-1EE8C:2524.20.5+8 1EE8D:2530.20.5 1EE8E-1EE8F:24D9.20.5+17 1EE90:24F9.20.5
1EE91-1EE92:24E4.20.5+21 1EE93-1EE94:24C6.20.5+14 1EE95-1EE96:2497.20.5+1 1EE97-1EE98:24AD.20.5+B
1EE99-1EE9B:24E5.20.5+6 1EEA1-1EEA2:2486.20.5+1B 1EEA3:24B7.20.5 1EEA5:2541.20.5 1EEA6:24C7.20.5
1EEA7-1EEA8:24AC.20.5+3E 1EEA9:2550.20.5 1EEAB-1EEAC:2524.20.5+8 1EEAD:2530.20.5
1EEAE-1EEAF:24D9.20.5+17 1EEB0:24F9.20.5 1EEB1-1EEB2:24E4.20.5+21 1EEB3-1EEB4:24C6.20.5+14
1EEB5-1EEB6:2497.20.5+1 1EEB7-1EEB8:24AD.20.5+B 1EEB9-1EEBB:24E5.20.5+6 1EEF0-1EEF1:55B+1
1F000-1F02B:13CE+1 1F030-1F093:13FA+1 1F0A0-1F0AE:145E+1 1F0B1-1F0BF:146D+1 1F0C1-1F0CF:147C+1
1F0D1-1F0F5:148B+1 1F100:209C.20.4;281.20.4 1F101-1F10A:209C.20.4;224.20.4+1 1F10B-1F10C:209C.20.6
1F10D-1F10F:1512+1 1F110:335.20.4;20A6.20.A;336.20.4 1F111:335.20.4;20B4.20.A;336.20.4
1F112:335.20.4;20BF.20.A;336.20.4 1F113:335.20.4;20C9.20.A;336.20.4
1F114:335.20.4;20D7.20.A;336.20.4 1F115:335.20.4;20EE.20.A;336.20.4
1F116:335.20.4;20F7.20.A;336.20.4 1F117:335.20.4;2106.20.A;336.20.4
1F118:335.20.4;2112.20.A;336.20.4 1F119:335.20.4;211F.20.A;336.20.4
1F11A:335.20.4;2126.20.A;336.20.4 1F11B:335.20.4;2131.20.A;336.20.4
1F11C:335.20.4;214C.20.A;336.20.4 1F11D:335.20.4;2155.20.A;336.20.4
1F11E:335.20.4;2167.20.A;336.20.4 1F11F:335.20.4;2185.20.A;336.20.4
1F120:335.20.4;2191.20.A;336.20.4 1F121:335.20.4;2198.20.A;336.20.4
1F122:335.20.4;21B9.20.A;336.20.4 1F123:335.20.4;21CE.20.A;336.20.4
1F124:335.20.4;21DC.20.A;336.20.4 1F125:335.20.4;21F4.20.A;336.20.4
1F126:335.20.4;21FD.20.A;336.20.4 1F127:335.20.4;2201.20.A;336.20.4
1F128:335.20.4;220A.20.A;336.20.4 1F129:335.20.4;2211.20.A;336.20.4
1F12A:39F.20.4;21B9.20.A;3A0.20.4 1F12B-1F12C:20BF.20.C+D9 1F12D:20BF.20.C;20C9.20.C
1F12E:21FD.20.C;2211.20.C 1F12F:614 1F130-1F131:20A6.20.1D+E 1F132-1F133:20BF.20.1D+A
1F134-1F135:20D7.20.1D+17 1F136-1F137:20F7.20.1D+F 1F138-1F139:2112.20.1D+D
1F13A-1F13B:2126.20.1D+B 1F13C-1F13D:214C.20.1D+9 1F13E-1F13F:2167.20.1D+1E
1F140-1F141:2191.20.1D+7 1F142-1F143:21B9.20.1D+15 1F144-1F145:21DC.20.1D+18
1F146-1F147:21FD.20.1D+4 1F148-1F149:220A.20.1D+7 1F14A-1F14B:2106.20.1D;21F4.20.1D+46
1F14C:21B9.20.1D;20C9.20.1D 1F14D:21B9.20.1D;21B9.20.1D 1F14E:2185.20.1D;2185.20.1D;21F4.20.1D
1F14F:21FD.20.1D;20BF.20.1D 1F150-1F151:20A6.20.C+E 1F152-1F153:20BF.20.C+A
1F154-1F155:20D7.20.C+17 1F156-1F157:20F7.20.C+F 1F158-1F159:2112.20.C+D 1F15A-1F15B:2126.20.C+B
1F15C-1F15D:214C.20.C+9 1F15E-1F15F:2167.20.C+1E 1F160-1F161:2191.20.C+7 1F162-1F163:21B9.20.C+15
1F164-1F165:21DC.20.C+18 1F166-1F167:21FD.20.C+4 1F168-1F169:220A.20.C+7
1F16A:214C.20.14;20BF.20.14 1F16B:214C.20.14;20C9.20.14 1F16C:214C.20.14;2198.20.14
1F16D-1F16F:1515+1 1F170-1F171:20A6.20.1D+E 1F172-1F173:20BF.20.1D+A 1F174-1F175:20D7.20.1D+17
1F176-1F177:20F7.20.1D+F 1F178-1F179:2112.20.1D+D 1F17A-1F17B:2126.20.1D+B
1F17C-1F17D:214C.20.1D+9 1F17E-1F17F:2167.20.1D+1E 1F180-1F181:2191.20.1D+7
1F182-1F183:21B9.20.1D+15 1F184-1F185:21DC.20.1D+18 1F186-1F187:21FD.20.1D+4
1F188-1F189:220A.20.1D+7 1F18A:2185.20.1D 1F18B:2112.20.1D;20BF.20.1D
1F18C-1F18D:2185.20.1D;20A6.20.1D+34 1F18E:20A6.20.1D;20B4.20.1D 1F18F:21FD.20.1D;20BF.20.1D
1F190:20C9.20.1D;211F.20.1D 1F191:20BF.20.1D;2131.20.1D
1F192:20BF.20.1D;2167.20.1D;2167.20.1D;2131.20.1D
1F193:20EE.20.1D;2198.20.1D;20D7.20.1D;20D7.20.1D 1F194:2112.20.1D;20C9.20.1D
1F195:2155.20.1D;20D7.20.1D;21FD.20.1D 1F196:2155.20.1D;20F7.20.1D 1F197:2167.20.1D;2126.20.1D
1F198:21B9.20.1D;2167.20.1D;21B9.20.1D 1F199:21DC.20.1D;2185.20.1D;268.20.1C
1F19A:21F4.20.1D;21B9.20.1D 1F19B:209F.20.1C;20C9.20.1D
1F19C:209E.20.1C;2155.20.1C;20C9.20.1C;209.20.1C;21B9.20.1D;20BF.20.1C;2198.20.1C
1F19D-1F19E:209E.20.1C;2126.20.1D+2 1F19F:20A4.20.1C;2126.20.1D
1F1A0-1F1A1:20A1.20.1C;281.20.1C;209D.20.1C+2 1F1A2:209E.20.1C;209E.20.1C;281.20.1C;209E.20.1C
1F1A3:20A2.20.1C;209C.20.1C;2185.20.1D 1F1A4:209D.20.1C;209E.20.1C;209C.20.1C;2185.20.1D
1F1A5:20C9.20.1C 1F1A6:2106.20.1D;20BF.20.1C 1F1A7:2106.20.1D;20C9.20.1C;2198.20.1D
1F1A8:2106.20.1D;2112.20.1C;209.20.1C;2198.20.1D;20D7.20.1C;21B9.20.1C
1F1A9:2131.20.1D;2167.20.1C;21B9.20.1C;21B9.20.1C;2131.20.1C;20D7.20.1C;21B9.20.1C;21B9.20.1C
1F1AA:21B9.20.1D;2106.20.1D;21F4.20.1D 1F1AB:21DC.20.1D;2106.20.1D;20C9.20.1D
1F1AC:21F4.20.1D;2167.20.1D;20C9.20.1D 1F1AD:616 1F1E6-1F1FF:B63+1 1F200:418E.20.1C;4176.20.1C
1F201:417A.20.1C;417A.20.1C 1F202:417B.20.1C 1F210:FB40.20.1C;E24B.0.0 1F211:FB40.20.1C;DB57.0.0
1F212:FB40.20.1C;D3CC.0.0 1F213:4183.20.1C;0.37.1C 1F214:FB40.20.1C;CE8C.0.0
1F215:FB40.20.1C;D91A.0.0 1F216:FB41.20.1C;89E3.0.0 1F217:FB40.20.1C;D929.0.0
1F218:FB40.20.1C;CEA4.0.0 1F219:FB40.20.1C;E620.0.0 1F21A:FB40.20.1C;F121.0.0
1F21B:FB40.20.1C;E599.0.0 1F21C:FB40.20.1C;D24D.0.0 1F21D:FB40.20.1C;DF8C.0.0
1F21E:FB40.20.1C;D18D.0.0 1F21F:FB40.20.1C;E5B0.0.0 1F220:FB40.20.1C;D21D.0.0
1F221:FB40.20.1C;FD42.0.0 1F222:FB40.20.1C;F51F.0.0 1F223:FB41.20.1C;8CA9.0.0
1F224:FB40.20.1C;D8F0.0.0 1F225:FB40.20.1C;D439.0.0 1F226:FB40.20.1C;EF14.0.0
1F227:FB40.20.1C;E295.0.0 1F228:FB40.20.1C;E355.0.0 1F229:FB40.20.1C;CE00.0.0
1F22A:FB40.20.1C;CE09.0.0 1F22B:FB41.20.1C;904A.0.0 1F22C:FB40.20.1C;DDE6.0.0
1F22D:FB40.20.1C;CE2D.0.0 1F22E:FB40.20.1C;D3F3.0.0 1F22F:FB40.20.1C;E307.0.0
1F230:FB41.20.1C;8D70.0.0 1F231:FB40.20.1C;E253.0.0 1F232:FB40.20.1C;F981.0.0
1F233:FB40.20.1C;FA7A.0.0 1F234:FB40.20.1C;D408.0.0 1F235:FB40.20.1C;EE80.0.0
1F236:FB40.20.1C;E709.0.0 1F237:FB40.20.1C;E708.0.0 1F238:FB40.20.1C;F533.0.0
1F239:FB40.20.1C;D272.0.0 1F23A:FB40.20.1C;D5B6.0.0 1F23B:FB41.20.1C;914D.0.0
1F240:39F.20.4;FB40.20.4;E72C.0.0;3A0.20.4 1F241:39F.20.4;FB40.20.4;CE09.0.0;3A0.20.4
1F242:39F.20.4;FB40.20.4;CE8C.0.0;3A0.20.4 1F243:39F.20.4;FB40.20.4;DB89.0.0;3A0.20.4
1F244:39F.20.4;FB40.20.4;F0B9.0.0;3A0.20.4 1F245:39F.20.4;FB40.20.4;E253.0.0;3A0.20.4
1F246:39F.20.4;FB40.20.4;F6D7.0.0;3A0.20.4 1F247:39F.20.4;FB40.20.4;D2DD.0.0;3A0.20.4
1F248:39F.20.4;FB40.20.4;E557.0.0;3A0.20.4 1F250:FB40.20.6;DF97.0.0 1F251:FB40.20.6;D3EF.0.0
1F260-1F265:1518+1 1F300-1F5FF:151E+1 1F600-1F6D7:1989+1 1F6DC-1F6EC:1A61+1 1F6F0-1F6FC:1A72+1
1F700-1F776:1A7F+1 1F77B-1F7D9:1AF6+1 1F7E0-1F7EB:1B55+1 1F7F0:1B61 1F800-1F80B:1B62+1
1F810-1F847:1B6E+1 1F850-1F859:1BA6+1 1F860-1F887:1BB0+1 1F890-1F8AD:1BD8+1 1F8B0-1F8B1:1BF6+1
1F900-1F9FF:181E+1 1FA00-1FA53:14B0+1 1FA60-1FA6D:1504+1 1FA70-1FA7C:191E+1 1FA80-1FA88:192B+1
1FA90-1FABD:1934+1 1FABF-1FAC5:1962+1 1FACE-1FADB:1969+1 1FAE0-1FAE8:1977+1 1FAF0-1FAF8:1980+1
1FB00-1FB92:9AA+1 1FB94-1FBCA:A3D+1 1FBF0-1FBF9:209C.20.5+1 E0001: E0020-E007F: E0100-E01EF:"

/-- Sequences of characters that are weighed as one, with their elements. -/
def contractionText : String :=
"4C.B7:2131.20.8;0.11C 6C.B7:2131;0.11C 418.306:22E4.20.8 438.306:22E4 627.653:2477 627.654:2478
627.655:247C 648.654:247B 64A.654:2480 9C7.9BE:28B0 9C7.9D7:28B1 B47.B3E:2971 B47.B56:2970
B47.B57:2972 B92.BD7:2982 BC6.BBE:29A3 BC6.BD7:29A5 BC7.BBE:29A4 C46.C56:29EB CBF.CD5:2A2C
CC6.CC2:2A36 CC6.CC2.CD5:2A37 CC6.CD5:2A34 CC6.CD6:2A35 D46.D3E:2A81 D46.D57:2A83 D47.D3E:2A82
DD9.DCA:2ACD DD9.DCF:2ACF DD9.DCF.DCA:2AD0 DD9.DDF:2AD1 E40.E01:305E;3098 E40.E02:305F;3098
E40.E03:3060;3098 E40.E04:3061;3098 E40.E05:3062;3098 E40.E06:3063;3098 E40.E07:3064;3098
E40.E08:3065;3098 E40.E09:3066;3098 E40.E0A:3067;3098 E40.E0B:3068;3098 E40.E0C:3069;3098
E40.E0D:306A;3098 E40.E0E:306B;3098 E40.E0F:306C;3098 E40.E10:306D;3098 E40.E11:306E;3098
E40.E12:306F;3098 E40.E13:3070;3098 E40.E14:3071;3098 E40.E15:3072;3098 E40.E16:3073;3098
E40.E17:3074;3098 E40.E18:3075;3098 E40.E19:3076;3098 E40.E1A:3077;3098 E40.E1B:3078;3098
E40.E1C:3079;3098 E40.E1D:307A;3098 E40.E1E:307B;3098 E40.E1F:307C;3098 E40.E20:307D;3098
E40.E21:307E;3098 E40.E22:307F;3098 E40.E23:3080;3098 E40.E24:3081;3098 E40.E25:3082;3098
E40.E26:3083;3098 E40.E27:3084;3098 E40.E28:3085;3098 E40.E29:3086;3098 E40.E2A:3087;3098
E40.E2B:3088;3098 E40.E2C:3089;3098 E40.E2D:308A;3098 E40.E2E:308B;3098 E41.E01:305E;3099
E41.E02:305F;3099 E41.E03:3060;3099 E41.E04:3061;3099 E41.E05:3062;3099 E41.E06:3063;3099
E41.E07:3064;3099 E41.E08:3065;3099 E41.E09:3066;3099 E41.E0A:3067;3099 E41.E0B:3068;3099
E41.E0C:3069;3099 E41.E0D:306A;3099 E41.E0E:306B;3099 E41.E0F:306C;3099 E41.E10:306D;3099
E41.E11:306E;3099 E41.E12:306F;3099 E41.E13:3070;3099 E41.E14:3071;3099 E41.E15:3072;3099
E41.E16:3073;3099 E41.E17:3074;3099 E41.E18:3075;3099 E41.E19:3076;3099 E41.E1A:3077;3099
E41.E1B:3078;3099 E41.E1C:3079;3099 E41.E1D:307A;3099 E41.E1E:307B;3099 E41.E1F:307C;3099
E41.E20:307D;3099 E41.E21:307E;3099 E41.E22:307F;3099 E41.E23:3080;3099 E41.E24:3081;3099
E41.E25:3082;3099 E41.E26:3083;3099 E41.E27:3084;3099 E41.E28:3085;3099 E41.E29:3086;3099
E41.E2A:3087;3099 E41.E2B:3088;3099 E41.E2C:3089;3099 E41.E2D:308A;3099 E41.E2E:308B;3099
E42.E01:305E;309A E42.E02:305F;309A E42.E03:3060;309A E42.E04:3061;309A E42.E05:3062;309A
E42.E06:3063;309A E42.E07:3064;309A E42.E08:3065;309A E42.E09:3066;309A E42.E0A:3067;309A
E42.E0B:3068;309A E42.E0C:3069;309A E42.E0D:306A;309A E42.E0E:306B;309A E42.E0F:306C;309A
E42.E10:306D;309A E42.E11:306E;309A E42.E12:306F;309A E42.E13:3070;309A E42.E14:3071;309A
E42.E15:3072;309A E42.E16:3073;309A E42.E17:3074;309A E42.E18:3075;309A E42.E19:3076;309A
E42.E1A:3077;309A E42.E1B:3078;309A E42.E1C:3079;309A E42.E1D:307A;309A E42.E1E:307B;309A
E42.E1F:307C;309A E42.E20:307D;309A E42.E21:307E;309A E42.E22:307F;309A E42.E23:3080;309A
E42.E24:3081;309A E42.E25:3082;309A E42.E26:3083;309A E42.E27:3084;309A E42.E28:3085;309A
E42.E29:3086;309A E42.E2A:3087;309A E42.E2B:3088;309A E42.E2C:3089;309A E42.E2D:308A;309A
E42.E2E:308B;309A E43.E01:305E;309B E43.E02:305F;309B E43.E03:3060;309B E43.E04:3061;309B
E43.E05:3062;309B E43.E06:3063;309B E43.E07:3064;309B E43.E08:3065;309B E43.E09:3066;309B
E43.E0A:3067;309B E43.E0B:3068;309B E43.E0C:3069;309B E43.E0D:306A;309B E43.E0E:306B;309B
E43.E0F:306C;309B E43.E10:306D;309B E43.E11:306E;309B E43.E12:306F;309B E43.E13:3070;309B
E43.E14:3071;309B E43.E15:3072;309B E43.E16:3073;309B E43.E17:3074;309B E43.E18:3075;309B
E43.E19:3076;309B E43.E1A:3077;309B E43.E1B:3078;309B E43.E1C:3079;309B E43.E1D:307A;309B
E43.E1E:307B;309B E43.E1F:307C;309B E43.E20:307D;309B E43.E21:307E;309B E43.E22:307F;309B
E43.E23:3080;309B E43.E24:3081;309B E43.E25:3082;309B E43.E26:3083;309B E43.E27:3084;309B
E43.E28:3085;309B E43.E29:3086;309B E43.E2A:3087;309B E43.E2B:3088;309B E43.E2C:3089;309B
E43.E2D:308A;309B E43.E2E:308B;309B E44.E01:305E;309C E44.E02:305F;309C E44.E03:3060;309C
E44.E04:3061;309C E44.E05:3062;309C E44.E06:3063;309C E44.E07:3064;309C E44.E08:3065;309C
E44.E09:3066;309C E44.E0A:3067;309C E44.E0B:3068;309C E44.E0C:3069;309C E44.E0D:306A;309C
E44.E0E:306B;309C E44.E0F:306C;309C E44.E10:306D;309C E44.E11:306E;309C E44.E12:306F;309C
E44.E13:3070;309C E44.E14:3071;309C E44.E15:3072;309C E44.E16:3073;309C E44.E17:3074;309C
E44.E18:3075;309C E44.E19:3076;309C E44.E1A:3077;309C E44.E1B:3078;309C E44.E1C:3079;309C
E44.E1D:307A;309C E44.E1E:307B;309C E44.E1F:307C;309C E44.E20:307D;309C E44.E21:307E;309C
E44.E22:307F;309C E44.E23:3080;309C E44.E24:3081;309C E44.E25:3082;309C E44.E26:3083;309C
E44.E27:3084;309C E44.E28:3085;309C E44.E29:3086;309C E44.E2A:3087;309C E44.E2B:3088;309C
E44.E2C:3089;309C E44.E2D:308A;309C E44.E2E:308B;309C E4D.E32:3090 EC0.E81:309F;30D8
EC0.E82:30A0;30D8 EC0.E84:30A1;30D8 EC0.E86:30A2;30D8 EC0.E87:30A3;30D8 EC0.E88:30A4;30D8
EC0.E89:30A5;30D8 EC0.E8A:30A7;30D8 EC0.E8C:30A8;30D8 EC0.E8D:30AB;30D8 EC0.E8E:30A9;30D8
EC0.E8F:30AC;30D8 EC0.E90:30AD;30D8 EC0.E91:30AE;30D8 EC0.E92:30AF;30D8 EC0.E93:30B0;30D8
EC0.E94:30B1;30D8 EC0.E95:30B2;30D8 EC0.E96:30B3;30D8 EC0.E97:30B4;30D8 EC0.E98:30B5;30D8
EC0.E99:30B6;30D8 EC0.E9A:30B7;30D8 EC0.E9B:30B8;30D8 EC0.E9C:30B9;30D8 EC0.E9D:30BA;30D8
EC0.E9E:30BB;30D8 EC0.E9F:30BC;30D8 EC0.EA0:30BD;30D8 EC0.EA1:30BE;30D8 EC0.EA2:30BF;30D8
EC0.EA3:30C0;30D8 EC0.EA5:30C1;30D8 EC0.EA7:30C2;30D8 EC0.EA8:30C3;30D8 EC0.EA9:30C4;30D8
EC0.EAA:30A6;30D8 EC0.EAB:30C5;30D8 EC0.EAC:30C6;30D8 EC0.EAD:30C7;30D8 EC0.EAE:30C8;30D8
EC0.EDC:30C5.20.4;30B6.20.4;30D8 EC0.EDD:30C5.20.4;30BE.20.4;30D8 EC0.EDE:309E;30D8
EC0.EDF:30AA;30D8 EC1.E81:309F;30D9 EC1.E82:30A0;30D9 EC1.E84:30A1;30D9 EC1.E86:30A2;30D9
EC1.E87:30A3;30D9 EC1.E88:30A4;30D9 EC1.E89:30A5;30D9 EC1.E8A:30A7;30D9 EC1.E8C:30A8;30D9
EC1.E8D:30AB;30D9 EC1.E8E:30A9;30D9 EC1.E8F:30AC;30D9 EC1.E90:30AD;30D9 EC1.E91:30AE;30D9
EC1.E92:30AF;30D9 EC1.E93:30B0;30D9 EC1.E94:30B1;30D9 EC1.E95:30B2;30D9 EC1.E96:30B3;30D9
EC1.E97:30B4;30D9 EC1.E98:30B5;30D9 EC1.E99:30B6;30D9 EC1.E9A:30B7;30D9 EC1.E9B:30B8;30D9
EC1.E9C:30B9;30D9 EC1.E9D:30BA;30D9 EC1.E9E:30BB;30D9 EC1.E9F:30BC;30D9 EC1.EA0:30BD;30D9
EC1.EA1:30BE;30D9 EC1.EA2:30BF;30D9 EC1.EA3:30C0;30D9 EC1.EA5:30C1;30D9 EC1.EA7:30C2;30D9
EC1.EA8:30C3;30D9 EC1.EA9:30C4;30D9 EC1.EAA:30A6;30D9 EC1.EAB:30C5;30D9 EC1.EAC:30C6;30D9
EC1.EAD:30C7;30D9 EC1.EAE:30C8;30D9 EC1.EDC:30C5.20.4;30B6.20.4;30D9
EC1.EDD:30C5.20.4;30BE.20.4;30D9 EC1.EDE:309E;30D9 EC1.EDF:30AA;30D9 EC2.E81:309F;30DA
EC2.E82:30A0;30DA EC2.E84:30A1;30DA EC2.E86:30A2;30DA EC2.E87:30A3;30DA EC2.E88:30A4;30DA
EC2.E89:30A5;30DA EC2.E8A:30A7;30DA EC2.E8C:30A8;30DA EC2.E8D:30AB;30DA EC2.E8E:30A9;30DA
EC2.E8F:30AC;30DA EC2.E90:30AD;30DA EC2.E91:30AE;30DA EC2.E92:30AF;30DA EC2.E93:30B0;30DA
EC2.E94:30B1;30DA EC2.E95:30B2;30DA EC2.E96:30B3;30DA EC2.E97:30B4;30DA EC2.E98:30B5;30DA
EC2.E99:30B6;30DA EC2.E9A:30B7;30DA EC2.E9B:30B8;30DA EC2.E9C:30B9;30DA EC2.E9D:30BA;30DA
EC2.E9E:30BB;30DA EC2.E9F:30BC;30DA EC2.EA0:30BD;30DA EC2.EA1:30BE;30DA EC2.EA2:30BF;30DA
EC2.EA3:30C0;30DA EC2.EA5:30C1;30DA EC2.EA7:30C2;30DA EC2.EA8:30C3;30DA EC2.EA9:30C4;30DA
EC2.EAA:30A6;30DA EC2.EAB:30C5;30DA EC2.EAC:30C6;30DA EC2.EAD:30C7;30DA EC2.EAE:30C8;30DA
EC2.EDC:30C5.20.4;30B6.20.4;30DA EC2.EDD:30C5.20.4;30BE.20.4;30DA EC2.EDE:309E;30DA
EC2.EDF:30AA;30DA EC3.E81:309F;30DB EC3.E82:30A0;30DB EC3.E84:30A1;30DB EC3.E86:30A2;30DB
EC3.E87:30A3;30DB EC3.E88:30A4;30DB EC3.E89:30A5;30DB EC3.E8A:30A7;30DB EC3.E8C:30A8;30DB
EC3.E8D:30AB;30DB EC3.E8E:30A9;30DB EC3.E8F:30AC;30DB EC3.E90:30AD;30DB EC3.E91:30AE;30DB
EC3.E92:30AF;30DB EC3.E93:30B0;30DB EC3.E94:30B1;30DB EC3.E95:30B2;30DB EC3.E96:30B3;30DB
EC3.E97:30B4;30DB EC3.E98:30B5;30DB EC3.E99:30B6;30DB EC3.E9A:30B7;30DB EC3.E9B:30B8;30DB
EC3.E9C:30B9;30DB EC3.E9D:30BA;30DB EC3.E9E:30BB;30DB EC3.E9F:30BC;30DB EC3.EA0:30BD;30DB
EC3.EA1:30BE;30DB EC3.EA2:30BF;30DB EC3.EA3:30C0;30DB EC3.EA5:30C1;30DB EC3.EA7:30C2;30DB
EC3.EA8:30C3;30DB EC3.EA9:30C4;30DB EC3.EAA:30A6;30DB EC3.EAB:30C5;30DB EC3.EAC:30C6;30DB
EC3.EAD:30C7;30DB EC3.EAE:30C8;30DB EC3.EDC:30C5.20.4;30B6.20.4;30DB
EC3.EDD:30C5.20.4;30BE.20.4;30DB EC3.EDE:309E;30DB EC3.EDF:30AA;30DB EC4.E81:309F;30DC
EC4.E82:30A0;30DC EC4.E84:30A1;30DC EC4.E86:30A2;30DC EC4.E87:30A3;30DC EC4.E88:30A4;30DC
EC4.E89:30A5;30DC EC4.E8A:30A7;30DC EC4.E8C:30A8;30DC EC4.E8D:30AB;30DC EC4.E8E:30A9;30DC
EC4.E8F:30AC;30DC EC4.E90:30AD;30DC EC4.E91:30AE;30DC EC4.E92:30AF;30DC EC4.E93:30B0;30DC
EC4.E94:30B1;30DC EC4.E95:30B2;30DC EC4.E96:30B3;30DC EC4.E97:30B4;30DC EC4.E98:30B5;30DC
EC4.E99:30B6;30DC EC4.E9A:30B7;30DC EC4.E9B:30B8;30DC EC4.E9C:30B9;30DC EC4.E9D:30BA;30DC
EC4.E9E:30BB;30DC EC4.E9F:30BC;30DC EC4.EA0:30BD;30DC EC4.EA1:30BE;30DC EC4.EA2:30BF;30DC
EC4.EA3:30C0;30DC EC4.EA5:30C1;30DC EC4.EA7:30C2;30DC EC4.EA8:30C3;30DC EC4.EA9:30C4;30DC
EC4.EAA:30A6;30DC EC4.EAB:30C5;30DC EC4.EAC:30C6;30DC EC4.EAD:30C7;30DC EC4.EAE:30C8;30DC
EC4.EDC:30C5.20.4;30B6.20.4;30DC EC4.EDD:30C5.20.4;30BE.20.4;30DC EC4.EDE:309E;30DC
EC4.EDF:30AA;30DC ECD.EB2:30CD F71.F72:3172 F71.F74:3176 F71.F80:3174 FB2.F71.F80:3178
FB2.F80:3177 FB3.F71.F80:317A FB3.F80:3179 1025.102E:3427 19B5.1980:3528;3559 19B5.1981:3529;3559
19B5.1982:352A;3559 19B5.1983:352B;3559 19B5.1984:352C;3559 19B5.1985:352D;3559
19B5.1986:352E;3559 19B5.1987:352F;3559 19B5.1988:3530;3559 19B5.1989:3531;3559
19B5.198A:3532;3559 19B5.198B:3533;3559 19B5.198C:3534;3559 19B5.198D:3535;3559
19B5.198E:3536;3559 19B5.198F:3537;3559 19B5.1990:3538;3559 19B5.1991:3539;3559
19B5.1992:353A;3559 19B5.1993:353B;3559 19B5.1994:353C;3559 19B5.1995:353D;3559
19B5.1996:353E;3559 19B5.1997:353F;3559 19B5.1998:3540;3559 19B5.1999:3541;3559
19B5.199A:3542;3559 19B5.199B:3543;3559 19B5.199C:3544;3559 19B5.199D:3545;3559
19B5.199E:3546;3559 19B5.199F:3547;3559 19B5.19A0:3548;3559 19B5.19A1:3549;3559
19B5.19A2:354A;3559 19B5.19A3:354B;3559 19B5.19A4:354C;3559 19B5.19A5:354D;3559
19B5.19A6:354E;3559 19B5.19A7:354F;3559 19B5.19A8:3550;3559 19B5.19A9:3551;3559
19B5.19AA:3552;3559 19B5.19AB:3553;3559 19B6.1980:3528;355A 19B6.1981:3529;355A
19B6.1982:352A;355A 19B6.1983:352B;355A 19B6.1984:352C;355A 19B6.1985:352D;355A
19B6.1986:352E;355A 19B6.1987:352F;355A 19B6.1988:3530;355A 19B6.1989:3531;355A
19B6.198A:3532;355A 19B6.198B:3533;355A 19B6.198C:3534;355A 19B6.198D:3535;355A
19B6.198E:3536;355A 19B6.198F:3537;355A 19B6.1990:3538;355A 19B6.1991:3539;355A
19B6.1992:353A;355A 19B6.1993:353B;355A 19B6.1994:353C;355A 19B6.1995:353D;355A
19B6.1996:353E;355A 19B6.1997:353F;355A 19B6.1998:3540;355A 19B6.1999:3541;355A
19B6.199A:3542;355A 19B6.199B:3543;355A 19B6.199C:3544;355A 19B6.199D:3545;355A
19B6.199E:3546;355A 19B6.199F:3547;355A 19B6.19A0:3548;355A 19B6.19A1:3549;355A
19B6.19A2:354A;355A 19B6.19A3:354B;355A 19B6.19A4:354C;355A 19B6.19A5:354D;355A
19B6.19A6:354E;355A 19B6.19A7:354F;355A 19B6.19A8:3550;355A 19B6.19A9:3551;355A
19B6.19AA:3552;355A 19B6.19AB:3553;355A 19B7.1980:3528;355B 19B7.1981:3529;355B
19B7.1982:352A;355B 19B7.1983:352B;355B 19B7.1984:352C;355B 19B7.1985:352D;355B
19B7.1986:352E;355B 19B7.1987:352F;355B 19B7.1988:3530;355B 19B7.1989:3531;355B
19B7.198A:3532;355B 19B7.198B:3533;355B 19B7.198C:3534;355B 19B7.198D:3535;355B
19B7.198E:3536;355B 19B7.198F:3537;355B 19B7.1990:3538;355B 19B7.1991:3539;355B
19B7.1992:353A;355B 19B7.1993:353B;355B 19B7.1994:353C;355B 19B7.1995:353D;355B
19B7.1996:353E;355B 19B7.1997:353F;355B 19B7.1998:3540;355B 19B7.1999:3541;355B
19B7.199A:3542;355B 19B7.199B:3543;355B 19B7.199C:3544;355B 19B7.199D:3545;355B
19B7.199E:3546;355B 19B7.199F:3547;355B 19B7.19A0:3548;355B 19B7.19A1:3549;355B
19B7.19A2:354A;355B 19B7.19A3:354B;355B 19B7.19A4:354C;355B 19B7.19A5:354D;355B
19B7.19A6:354E;355B 19B7.19A7:354F;355B 19B7.19A8:3550;355B 19B7.19A9:3551;355B
19B7.19AA:3552;355B 19B7.19AB:3553;355B 19BA.1980:3528;355E 19BA.1981:3529;355E
19BA.1982:352A;355E 19BA.1983:352B;355E 19BA.1984:352C;355E 19BA.1985:352D;355E
19BA.1986:352E;355E 19BA.1987:352F;355E 19BA.1988:3530;355E 19BA.1989:3531;355E
19BA.198A:3532;355E 19BA.198B:3533;355E 19BA.198C:3534;355E 19BA.198D:3535;355E
19BA.198E:3536;355E 19BA.198F:3537;355E 19BA.1990:3538;355E 19BA.1991:3539;355E
19BA.1992:353A;355E 19BA.1993:353B;355E 19BA.1994:353C;355E 19BA.1995:353D;355E
19BA.1996:353E;355E 19BA.1997:353F;355E 19BA.1998:3540;355E 19BA.1999:3541;355E
19BA.199A:3542;355E 19BA.199B:3543;355E 19BA.199C:3544;355E 19BA.199D:3545;355E
19BA.199E:3546;355E 19BA.199F:3547;355E 19BA.19A0:3548;355E 19BA.19A1:3549;355E
19BA.19A2:354A;355E 19BA.19A3:354B;355E 19BA.19A4:354C;355E 19BA.19A5:354D;355E
19BA.19A6:354E;355E 19BA.19A7:354F;355E 19BA.19A8:3550;355E 19BA.19A9:3551;355E
19BA.19AA:3552;355E 19BA.19AB:3553;355E 1B05.1B35:3601 1B07.1B35:3603 1B09.1B35:3605
1B0B.1B35:3607 1B0D.1B35:3609 1B11.1B35:360D 1B3A.1B35:363C 1B3C.1B35:363E 1B3E.1B35:3641
1B3F.1B35:3642 1B42.1B35:3644 AAB5.AA80:30DD;3112 AAB5.AA81:30DE;3112 AAB5.AA82:30DF;3112
AAB5.AA83:30E0;3112 AAB5.AA84:30E1;3112 AAB5.AA85:30E2;3112 AAB5.AA86:30E3;3112
AAB5.AA87:30E4;3112 AAB5.AA88:30E5;3112 AAB5.AA89:30E6;3112 AAB5.AA8A:30E7;3112
AAB5.AA8B:30E8;3112 AAB5.AA8C:30E9;3112 AAB5.AA8D:30EA;3112 AAB5.AA8E:30EB;3112
AAB5.AA8F:30EC;3112 AAB5.AA90:30ED;3112 AAB5.AA91:30EE;3112 AAB5.AA92:30EF;3112
AAB5.AA93:30F0;3112 AAB5.AA94:30F1;3112 AAB5.AA95:30F2;3112 AAB5.AA96:30F3;3112
AAB5.AA97:30F4;3112 AAB5.AA98:30F5;3112 AAB5.AA99:30F6;3112 AAB5.AA9A:30F7;3112
AAB5.AA9B:30F8;3112 AAB5.AA9C:30F9;3112 AAB5.AA9D:30FA;3112 AAB5.AA9E:30FB;3112
AAB5.AA9F:30FC;3112 AAB5.AAA0:30FD;3112 AAB5.AAA1:30FE;3112 AAB5.AAA2:30FF;3112
AAB5.AAA3:3100;3112 AAB5.AAA4:3101;3112 AAB5.AAA5:3102;3112 AAB5.AAA6:3103;3112
AAB5.AAA7:3104;3112 AAB5.AAA8:3105;3112 AAB5.AAA9:3106;3112 AAB5.AAAA:3107;3112
AAB5.AAAB:3108;3112 AAB5.AAAC:3109;3112 AAB5.AAAD:310A;3112 AAB5.AAAE:310B;3112
AAB5.AAAF:310C;3112 AAB6.AA80:30DD;3113 AAB6.AA81:30DE;3113 AAB6.AA82:30DF;3113
AAB6.AA83:30E0;3113 AAB6.AA84:30E1;3113 AAB6.AA85:30E2;3113 AAB6.AA86:30E3;3113
AAB6.AA87:30E4;3113 AAB6.AA88:30E5;3113 AAB6.AA89:30E6;3113 AAB6.AA8A:30E7;3113
AAB6.AA8B:30E8;3113 AAB6.AA8C:30E9;3113 AAB6.AA8D:30EA;3113 AAB6.AA8E:30EB;3113
AAB6.AA8F:30EC;3113 AAB6.AA90:30ED;3113 AAB6.AA91:30EE;3113 AAB6.AA92:30EF;3113
AAB6.AA93:30F0;3113 AAB6.AA94:30F1;3113 AAB6.AA95:30F2;3113 AAB6.AA96:30F3;3113
AAB6.AA97:30F4;3113 AAB6.AA98:30F5;3113 AAB6.AA99:30F6;3113 AAB6.AA9A:30F7;3113
AAB6.AA9B:30F8;3113 AAB6.AA9C:30F9;3113 AAB6.AA9D:30FA;3113 AAB6.AA9E:30FB;3113
AAB6.AA9F:30FC;3113 AAB6.AAA0:30FD;3113 AAB6.AAA1:30FE;3113 AAB6.AAA2:30FF;3113
AAB6.AAA3:3100;3113 AAB6.AAA4:3101;3113 AAB6.AAA5:3102;3113 AAB6.AAA6:3103;3113
AAB6.AAA7:3104;3113 AAB6.AAA8:3105;3113 AAB6.AAA9:3106;3113 AAB6.AAAA:3107;3113
AAB6.AAAB:3108;3113 AAB6.AAAC:3109;3113 AAB6.AAAD:310A;3113 AAB6.AAAE:310B;3113
AAB6.AAAF:310C;3113 AAB9.AA80:30DD;3116 AAB9.AA81:30DE;3116 AAB9.AA82:30DF;3116
AAB9.AA83:30E0;3116 AAB9.AA84:30E1;3116 AAB9.AA85:30E2;3116 AAB9.AA86:30E3;3116
AAB9.AA87:30E4;3116 AAB9.AA88:30E5;3116 AAB9.AA89:30E6;3116 AAB9.AA8A:30E7;3116
AAB9.AA8B:30E8;3116 AAB9.AA8C:30E9;3116 AAB9.AA8D:30EA;3116 AAB9.AA8E:30EB;3116
AAB9.AA8F:30EC;3116 AAB9.AA90:30ED;3116 AAB9.AA91:30EE;3116 AAB9.AA92:30EF;3116
AAB9.AA93:30F0;3116 AAB9.AA94:30F1;3116 AAB9.AA95:30F2;3116 AAB9.AA96:30F3;3116
AAB9.AA97:30F4;3116 AAB9.AA98:30F5;3116 AAB9.AA99:30F6;3116 AAB9.AA9A:30F7;3116
AAB9.AA9B:30F8;3116 AAB9.AA9C:30F9;3116 AAB9.AA9D:30FA;3116 AAB9.AA9E:30FB;3116
AAB9.AA9F:30FC;3116 AAB9.AAA0:30FD;3116 AAB9.AAA1:30FE;3116 AAB9.AAA2:30FF;3116
AAB9.AAA3:3100;3116 AAB9.AAA4:3101;3116 AAB9.AAA5:3102;3116 AAB9.AAA6:3103;3116
AAB9.AAA7:3104;3116 AAB9.AAA8:3105;3116 AAB9.AAA9:3106;3116 AAB9.AAAA:3107;3116
AAB9.AAAB:3108;3116 AAB9.AAAC:3109;3116 AAB9.AAAD:310A;3116 AAB9.AAAE:310B;3116
AAB9.AAAF:310C;3116 AABB.AA80:30DD;3118 AABB.AA81:30DE;3118 AABB.AA82:30DF;3118
AABB.AA83:30E0;3118 AABB.AA84:30E1;3118 AABB.AA85:30E2;3118 AABB.AA86:30E3;3118
AABB.AA87:30E4;3118 AABB.AA88:30E5;3118 AABB.AA89:30E6;3118 AABB.AA8A:30E7;3118
AABB.AA8B:30E8;3118 AABB.AA8C:30E9;3118 AABB.AA8D:30EA;3118 AABB.AA8E:30EB;3118
AABB.AA8F:30EC;3118 AABB.AA90:30ED;3118 AABB.AA91:30EE;3118 AABB.AA92:30EF;3118
AABB.AA93:30F0;3118 AABB.AA94:30F1;3118 AABB.AA95:30F2;3118 AABB.AA96:30F3;3118
AABB.AA97:30F4;3118 AABB.AA98:30F5;3118 AABB.AA99:30F6;3118 AABB.AA9A:30F7;3118
AABB.AA9B:30F8;3118 AABB.AA9C:30F9;3118 AABB.AA9D:30FA;3118 AABB.AA9E:30FB;3118
AABB.AA9F:30FC;3118 AABB.AAA0:30FD;3118 AABB.AAA1:30FE;3118 AABB.AAA2:30FF;3118
AABB.AAA3:3100;3118 AABB.AAA4:3101;3118 AABB.AAA5:3102;3118 AABB.AAA6:3103;3118
AABB.AAA7:3104;3118 AABB.AAA8:3105;3118 AABB.AAA9:3106;3118 AABB.AAAA:3107;3118
AABB.AAAB:3108;3118 AABB.AAAC:3109;3118 AABB.AAAD:310A;3118 AABB.AAAE:310B;3118
AABB.AAAF:310C;3118 AABC.AA80:30DD;3119 AABC.AA81:30DE;3119 AABC.AA82:30DF;3119
AABC.AA83:30E0;3119 AABC.AA84:30E1;3119 AABC.AA85:30E2;3119 AABC.AA86:30E3;3119
AABC.AA87:30E4;3119 AABC.AA88:30E5;3119 AABC.AA89:30E6;3119 AABC.AA8A:30E7;3119
AABC.AA8B:30E8;3119 AABC.AA8C:30E9;3119 AABC.AA8D:30EA;3119 AABC.AA8E:30EB;3119
AABC.AA8F:30EC;3119 AABC.AA90:30ED;3119 AABC.AA91:30EE;3119 AABC.AA92:30EF;3119
AABC.AA93:30F0;3119 AABC.AA94:30F1;3119 AABC.AA95:30F2;3119 AABC.AA96:30F3;3119
AABC.AA97:30F4;3119 AABC.AA98:30F5;3119 AABC.AA99:30F6;3119 AABC.AA9A:30F7;3119
AABC.AA9B:30F8;3119 AABC.AA9C:30F9;3119 AABC.AA9D:30FA;3119 AABC.AA9E:30FB;3119
AABC.AA9F:30FC;3119 AABC.AAA0:30FD;3119 AABC.AAA1:30FE;3119 AABC.AAA2:30FF;3119
AABC.AAA3:3100;3119 AABC.AAA4:3101;3119 AABC.AAA5:3102;3119 AABC.AAA6:3103;3119
AABC.AAA7:3104;3119 AABC.AAA8:3105;3119 AABC.AAA9:3106;3119 AABC.AAAA:3107;3119
AABC.AAAB:3108;3119 AABC.AAAC:3109;3119 AABC.AAAD:310A;3119 AABC.AAAE:310B;3119
AABC.AAAF:310C;3119 11131.11127:34B6 11132.11127:34B7 11347.1133E:2CEF 11347.11357:2CF0
114B9.114B0:2D7D 114B9.114BA:2D7C 114B9.114BD:2D7F 115B8.115AF:2DB9 115B9.115AF:2DBA
11935.11930:2E66"

end FleetWatch.Collation

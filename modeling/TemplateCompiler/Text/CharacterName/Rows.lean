/-!
The names of characters (Unicode 14) in rows, packed.
-/

namespace TemplateCompiler.Text

def packedNames : String := "
j5BIc*6FN?a8wg%.9a:d@seHkk.=s1^9JP>^:3ymFwR:BmmirL2(aL%9zBo3lI!Y^|O:TA2a_ols4J.0od75GsQN7+dk67h3qaH~NmGFO<B%
NPRE2rJnBdrx[;:)%WAO2h?tfrm&MHRQP(%0)iak8&);@DDpFUvDi|6&o3?8c:(),mxTU]4XPx>~W>YSl+3tjtB[qX#=3uOc]ZX8+avXlxwj
HuZbjXv[*]AD~vR$L2|EGZP%PFlX_K!$<*?w.m9lonpl0#)93&|H[s,$A$WV(WkQZB=B:@OzgV:_VH|JWT4F)DrVk,^q2Ng4o4|Bk25ircGN
neK~ro*mK(VE@z>>g1+v[srFb3:2[z^[V;@u2N1x)mS%L(gx!rowXZ.DJ|06T]ZE5<JFiFoU1t]npHGyD3l0%f01aMF<y#s+~.8~zi9**<cx
4EoGOz51~RP,Bfo*_4&BnmMTz~B**7j*>Q2MQ6^XsRUa|[B.91z*&giLluX1|4*F9QCpg$fY@[v1DWPE_q;5.KX7e.~PLp8NKyY<~s52]^4L
k]*:HL^b*v8e0Od?sCN!h)+7S6i,i9Rq5vddedecH0aW]qse#>lsG<6@f@=^lVgu(ZS9ht9]vH3bd_=5NG>sQ5|=#!5c[SSI(77PI[gIlk$V
59;xQuN$:,MCv~u*6u0<cdkmjjX%HZ7S)G8C4Dm*kGOr*b3ruzg9h@tO@(q~Dc;Y$A]PSpIJrMo[rl@F+JM4RZKgfD4S@]edMWzvWJLVj#z[
rRN,s6BD&fz+$920XzrO>[bjt[Y9]_gilVqx^E>S&E;p&XrPU8DNCWwo<V?MGQicz@oLYmFM$gZYvBDcq6=X3TCpxRr8Xou(mlA;N=o%8<PA
JS>ii7]?X=qZ8S[CG+az@(Y*8r1YA:XLX*?Vw0nCBfvB#CI)E6<HZz84UmPEQKa&[(!Gr,&]Q4yxAFs~[L<yX1AF,pMu5?agT&no[JcW>LS2
<TRcP6cmktAbrrL;pr@<V8*aFbq1G)H[Hx;j~$r81Cd|umBt*Nv&C?:mpV<3D,V:7:GHjG(Z5Kc2=wgw!XEvld;^qkn?Cse=9iziJGoYttc<
O,<5Z#N^_M~9;!e^nCRa.;&~raar#d8,_6oW;_l]n>Njfh5Xvscev[QopY:W<4K18~D&6QHc#B_K4RwBTd_wWC!gk|dFYk~_fKn^QNu@!2P.
Hj._*#?,URQ=HKe40RXV<q!65y;UjnTFd@;$YKxn3]i*.I76t1^6dHVLZ5H6rOhtEO3$kI~l^XrlZ*Ml*II<Q@wpL>QU?Ji[v#>y<nB)170:
J#!>Z8Marq+)AkzY>=z([[q85ScJfFWFZ6h,EuUMitfz&1VV2_(2ZklAdK6ER5q.W4fY70aA@20maysw.zvL9N2,E1Ujz_RJ)gnTzV?ukTok
cKTTLQn::w>+!,HNIC*Bq2eHi,3(c$kivPx*ziDoLk!Fdl:jNyJ;p%?,_8edG4V9PXo#UxCasa@l~;uFL_4f)s+d>XlEMZj?z>A[nCC;d?[>
f9e~u3pab&BT*2=ZyxR$jWuhIfZF,3J8NPYZSuGx$|HDl$.9S.9HWhcq.S(5YGmYNAIOJ5CG;C]Uo~2M@l9f?2j9mX8zKJY!#J9Fi^L2x58W
oMsD$MSO:%usD,hr6>k06?YL^=j#%xCL?g9,mX407GNW9nUP.n)CNv7+Ea*EX&Ukv.PoykmvsuE*#8rxR7V2Fo8hxqX.,#@lR>D=l.gHvJ5?
CGuVy2Z|IcjC#q|W=,XXceA9XrBki27R[V[nAqZsr;G_Gn6R#bM7,4vh?*)5KqUe1|BLmG%gw6mXoB>QdCb.jr:EIVMPv4POFY7Y64qxgM2z
0^O@sjWQAU^:~yp3eK4YpU]Oo)s.w[PnBYf%%@UQMN^^:9FWT:L+&bwa$gA|MXlarX.k&|]R2Z25,rNY_Rzba?UL4651F@8m>mX7F7^#uSsf
u(h(rM.w|zfw3(AdT@5yQ8yInDf,+tG,Uz;HHq&D%6IPl^4+qB]iJpBxYlF(T[SBH.?jhz$&yv#)#WIOwfUw=Gi#sTHn254VAzT|[?<3@mMa
hJ2?!%Au97;&>AVLD;TJ7NW?U<a~RR^euh#$*MFrfB1HH,Lt;H&Bu~8QQD$Y^66Xn4rMQ#Ej&y:GD<^$7|)m0(do:7]V4tvqvmKWc:lwM?.<
wA~R4<~[uq4,#UIyit?D|dtfEgHv[|&NMFO,aUwr$pe2p^i,de|d(>YLY+e0,HPhbcd5fuF&AAu90[:xJ6<Cp43UCuM_S69Voc1h!97Lm!v~
qb?lYFiTUvJKRQ;WM!DKA1a=c)<VCatsSP2m)1C$fz?P^O#Hfy^kBc_G?Q!]ZF|sxGVMmzr$.>EO]GY1+GBX9<[D3tazUf.;Z;v8:Z,ea?lF
SBgFH)sLll*||Cua[_x>B?fSA#V~L09:t9q&S|[NDrMKc(CAX)LYpa)3E7U_$9ibk[E]_z%<Amp#9mW6zwO_?75XiH#90wahls7T_8iAQ3o5
1Zd>jFPk,H<Ma%g%2G%QIxxvHPgi#,e]jr$ZG<jx[Szl9>3,|+p.rJ0ESyFAGEQxfs40k)+gzr0(.K|6E^.=)W1WC9CM]Z?FFK3?2u?4I&_6
;$R6;$S|y>:>m^>kw:Ls!)c[g_X<.pVR:|uIM:!2HJ5y##D(ej|^QfhSWUD|.?^bWj7@*k=MfQ@xZBkP1FzWZqfs]z=o8td6)gjR~Jn,!0DS
lMI)owzY(s1vvvI1q)OwJSoShEpK:O~TE~FG)25VZRu?p5Hf0O<7^izEP55BPa^IF![h*)z_v:%eoa^0,YP~227c#L0l[(O+TN,Ki,qb_=60
.d*R6~Bk%JFT4WU7Pb;m=(D?0?L94P&Q!e@L)<e%u.V=JL?)S2p4A?HB]g6Z&r41AAE!P9%8r3<[y18NIo0uj4jPkCbEm>U$#^,#I)><Wt2|
xC_:52hKt@>YaO2Q=+@NAKPgjP%HwlxNs|~z&M?~YZkSO?B0XP_ytCla4Mw=q]H=W*$l;^h$n59,O)>17)[mo;I$s_9Ub?@Hr$s+@1BID9_+
uSxWXXfBUDPIRFW_[3#OhBP]SAp_EQ5kgYsDPK?VYvw$KY1xz#:03cAIyBw6uDLQLECi=S1Z_UU3qw>+7Po7Izp66sFwJwTMCe@~i^N^OX$.
?B+^b&@E(AW@+nW.Q[#4~3LIZ&UMXL&3;E_?6jHA7.40T9|gnZ=^z_u7_!x+|%^=,$>n|<nDOQN>q%FBgD6:<##Rs(Z5|he;xuiz]$gy7[l.
eBDZzrWwIYfIjh0L)sMby(R5[<4]gpnD[qYEkHxldvONzI@kiZE(ZJ6<Jd[AjQE5?eQLNJ9UdO:l5vgEtH6Z]W[c5O5#APZ:xme_9R9~.ujS
Rpt0iaUa>HEg|LgDp^MZHv7f9PgU*eqL^;NFY#gEAtKo(l3W;2cLD<_($LE&=B1R?BV.8g,.IrTeIIWZt<d%I1y:N?C!byMST9.sIp+HKEUJ
risi;(+#3:,^d#%))E|<W.n;A%N!jq;&YxAGJC~en6&:Uv?+|SL<QW4On(rSu=Uvu5E;$>ho_0(Lx;_OIW>[x@uzv&3AGpc)L~Hj|uaBh2#i
@H$a=kS(QD%TMD[wsE%Va4OE9kwFTh;[gGe3,dgpw6[x%eC:J,saO%a7uK:)q8;A]09B!GYAV@?$3UgnA<4;ajAbK_Kn[*1u&ete2zehH3_&
U+l,iTxQTm1b>iMi7o#~G_=qEMw++!VK5HD&CPdH)5gJTChhuc_gb7mtOLxao>xb1FcnINT6~WEb!(l43lR9Jd)LvsuZF=tw|qk$T|;Cl%JX
P8wDmrz0)(J|NP^_@()dBEKb_NGjTUmvPg[,dWzM!612l5,pS,j8AOv0pSuxXM.XkI31+]EQXPj<=Y;#Eb+EC^1&,fyw+2Zs!SXJW4X7cAmj
&%w?2!V~,Gb%DzRN9^nyjH(~2#Crkg2l[uECS.4?WvVG4j&czL]pSi|ZGk|js[8yE1uqcaS?NNWLNv8!**iJ$MH%+qmGk+:j,&!QI14u0F2M
s0IQEUkdJnV;n>t(UD:~qAN6Oe:$~0xtYXANWL1HkZax^]S?:vR[4wc]Rc#xx&Dlt$Bll*?0VmWsLZWB1~sO>?qDoX[@z<Bn[9D!JK*[*?Qg
cn%Oz<Bo:$&xIlsml(9oPAFNoia#Viav_x~[eo#!cuSt.vRsF|~QBQ&ucUJ>?k+B@rG~m9aa]tnz*G]jhJwDTXYCt<sRtzLl5@N)S6GK]cq#
JcMvlozW837!+%19<KH:Xz%dt4rs_Nm2|)Q?^4KeXOV4e:>(f!~w0Q*F#WLQavO+L2F|Ba8?s|W$<;^!oVgkak81]zd#1,&B???a0vs^PRk7
7Y$=2RL.EE44Uy+CxMoj72z1%9>*.Mo$[,#!j=8P+gNeUd?@<;Js|W|#A]].|?>@;NaC?sH#RQI+LcY+_y)KV:607;_?y6jwf3:mi~T&DKea
T)S5@pw44(tF]ob!8nZeTX7xCc7?]dB!o?wm)kw=#N5Tu!Sg:?2zI+UA(ou+.ge56!CAlER8%ix!br2[uIyevByr$pl)Km12Z>VXXQPeiY2F
7t&Wy#|.IcKriFcR@e3?#tM[0sF2iqbm:)jgzG[>>nd,agj_N*[=;_hKF$yJoNR&rW!,?,SGq%O5(UrmxMX=>&;pe63>7jCOsg.(gF86,zDB
Z^_!qScN<ON%oRV0qS:=<[G(.G6:2oo10JG]C~2KhE(pKlu0)kk6x=A_KQcHadMzxoo[c.9_*]7x&q_m8AjBc>S1HZ:^|mAyp*)Tp0|ubYJO
&K@~lhrL5q_H#,i|(q3F@)SY|FCBY2D1M|(&hu*.^[yqpC%^VNj!xr_6oV1B);U^*D.~E#0Bv2U1J)cgOS;fdiY5yb(vsqk&Ui*o%(?Y:,xh
|^pi$neWn8$%%B_tEAJ4:#H0z,|y>g#,7g:x~_53Atl!~)@9Hh9F*cCE%rX^_&34K5gY+nJscbg9,u@!ZLm~rBb9T)x^z3ADol#8@WcqQnIt
G=)cA!j9F^|.*$P~.1j~%D&zsmrkxLAw]Wf*ZU6T.XJ=+1P9P<XZmM+4zT1R8^5PqrJ$4:ELI=zbs[[rB>ks&gj@wFy,d!jzZ0<fupMt,%X)
3oT:LtY4Rk5EVp=&p#vI$01lx)5V=hQl3<XSINKz|uB&M1!4by;]g9.#07uSeO=]H;yzX9ihq?HlpSt7SoXo]z#t<SzM1VAwWnQ&*#UM.i2L
Nm^gO,&Y_5!onx0+pn;Q[d,62ZLL=8muR3=*NLXD*)&^]AAE5EgGR#EC&B1Rg+*(R&])xc)#0)I4+#oD.YLpl(|8:@VIKC^W_j%&;1GBZDF|
_^|xFSdATW+Q3SWfX~RbF:yd0sUMHR8pwh+4Gl!ydKdRXuk._%jntGAcBzZ@?$!DVWe0Qy3D?Hqz0c&d%qfEfy]K%X9%*LD)6&U?MaY#zbUl
#u~9zAf1Lw|n()2>)K(.,BY_U|F1fZ<YqmEA@P=8yVDs,@mY!5X1:zz*+7,xF?cY3Fjmf<oO0oIPI(:Tz)kv<4a5P2QNy1)JmL6DghlT[6!j
<HRB4Qt#oAa1.UN]m!d_RKdVq3(!V!o?O[P(DD+q+jBY#gwWif]gOe+t9]0YKDN5y3Fqb_45kE>^OX1IXT(rzLoaaG~XTDdg1[f_ZJHBNhqk
@YYXuFf).3c#U:m(JDx3@J83@=uC&JQjbOrupUDkuj9dM?>W]DmY?nr;<B%zqI5nV=1?e09SWj.,)9Bk1)yHo@Vxp(2bOn;p$s56rqHy>YrB
c(C|pIx3=*AN&Z9_!zN]poT$pk*:R;k^4j9Sj0wi8dgN]p=wgIYrU#c[e#<dDQmUCHh;[UvTv?75EE|BOM?BhUZHh)iOBB(gMw01TI)1C1nZ
EMY;fwZWmdiOO+]$<pSws1u<_~l>$<N.|hK$mdxFz2!p(*r!e]NbqsEJKqm0*_4+5%*YZF1Qy.SSAFs;f=hu_l.e5UHq^9;uh+^lPAE;]K)6
|i=pGOqo~.B,2sVSQO(2hHeiUGSKVy<!fk)P|a%bs^>x|^6oY^O$?]XN$un;cr[~ltR.)+oRkolEy7uA3(&!JG*IKwdj0Tm)0WDSk:Y20U~e
obL0Fuh<_9JX4uGyo[ht]=K*kB]WN,<a#$;>YE]tX!&>XL8ywryB8>x?@r_2!k7PtBk9C;yZG#R#!H?Nc.fTSEZLh;sBm6,UEn2>Ait*;!Jp
x5N,[MozRAd?,&(w%<okmfw%xj#h_D<J!MO[rLxZGcy!DxAHbs]).|U^L5|#!^(Gb4Dny;)Y.G^^<CjS[<ba)W++3[6J_s[g~4g.6W_5!pmz
5o<WTxt_SB00v7]lU#t^Tjn<TuJHb82[Z91X|1L~3j|bImBgiX%plj|M*ViaLnS)#%ZqpF0[^WB,.9x3=4v*i(#w9i=jsn~3un]*MsA&xVgs
Z&YIYl=CRR.yDloU0FEYbhyh*Hb_6T=h]8(R^Ylu^VWsx7<84xd$]TTN(U??kj(<Apc4R#]wcFS7HvS;?,lNHKpdKwb2IQ7YYD!+7xdYGo1?
;f5FggkIJfS1ehFAEe9T(9q*mu1x7qg)ReRSZyi$3xiEErW&ICJNU4]L5o)e2#7?WW)ILdJEXC8BQggjYbCwl8#Q$$yaudyz*bt~qnrWp^5f
amn(QaoU:44C)OW0kL8b@9oh,;9DH=>X%5@ihBEyC7Fzvw<lameTCU:):=B>q:OBz!yA?S97|HvQ,WV6$cZeM%th]91Ke9,.MeN0j,=Mp1yX
T:JP(H+@q=?]cj^I+Em=aQ~(2HO_.]hgZaE[j;Y[<h[g$?um=[:aqK]PhGe(tvaETOB1Fu=2?:QISl$)8.?:r[PGsV;63ur5K]%)eAwqhVhw
a^kw<;lg]6C_nf.QU1u:!$d(mXL.Pb25GKS$pie&[p#Dqxm~)hNvCA_gpafnNBI8ok?I^M7DnJb.iBSXVcdT_#$X*4Ml:Nv+$,Z+E8B1S=wP
M|9]6c]Tb3J$vH8vExNY30#|m7V+!|_aZ2&))xt@H%,rFjr&dX1t@ZlEn@Ebqp1lRsiQ9p=re<Qx^%q)KjRzCDVJDxM15mxk:[BZVnhzAS>6
0ak~HuNa*eD|w9wqw9H0oA|NsZQ%ZieRp)_CA~#oBST<vRUNgu~o^;<,M;*^zK:qg6y%)#9[cA(rASC]n)y1:IX6rU3.u%<dHM:M%nL+0AX+
7,%dbFst9k^[5uZ#js]v;c24VwyRaFJ8jHVT@I(@wZ~3)=ushuY$#<vIXe^sx=UoXy]_cmU?aKI=?KXc+Z;X(Yf~Qbe_AOV[c,t%Qwg60bZ_
<L..H3oir(_UW)[ZVg|z+.|hlz4$]F(D9en,DTaaQ6L)P+D1)Y5+?TBAd:Rm]Mxqd!=%Xu<nEbfWuCf#yMQT~Io@1LCVkdD8f?7%(n<8=7OG
OI_+*h^4h<Os1)Oy[]RU7%NrGc[op6H9g1qEpAd#C%#QX4bZIjhtk3hNXC^5wtx3ZVUChHzUJylV9na:jMh0BaH4^&#_a0$<3$#P#&GgMG>H
|ky[lwNH8?O;D4o:<@|ki<u4[NZo6wp_f)8WK^6BJA!ELmQFW=W2We(01<:vHn9oT#2JrI)?4WIG.ET@g?@ICH|Lw_#@2DHvoSe^rp2UVE_q
A,YO$uS?f!|nf9BEKayaNDDK8ili&zmUw7ZYsI8<KRRltrFrfl|^wG(aya9PQtWEufwV2$%HB#!3sh.4q1^X<rmRI2I7x6m1JZ0Ec5s8kdPT
PgQzG)SHsC[dQy6sT6RC0jD%KEx(FJ:g_kxf%y(n)=..=U<,$.i<1*ZK_br)]RYrZFDVRFA<avC$V>24cY1>t.QAmr0GqCtuq:WmlFciDVi!
rY_d6OZPhNamvfdj>BsYZ=lObF5Fpa#Sc?bohSqGY,840C3@6COG#Rwve&dE~HthuqaB:>1YTpg[sh@lJf%#GBXHxg9c73?3NL^TUJhspcS.
^)*ue+tl$0&tVN9AC]q%%s70Q6;.cg$_oCkkgW$i!RJF3%!7LIiE,PKLDgctd:5$VrZ@qn,xEs)MGdP23M?.hzDY]6BlqvUy|Qp>)L:fPuhQ
&46>=LN;~~*v|~lAqGaiKmKgmfoc*PruFJRaFgOndaK|1UQF6TMKEq#gCkh+]T&@Z$c:mtT6=N@x0MZqNTzGV0P#l<A+~bfhBLwSpvEjapZ0
.am,wKTIA55z71JfG$]!pSV~6?Xoki,5_4a~xrt0&lnyt5CmzAc4BWNkEA!dugs*GHR&p|4iwSK+7gO.qHqX!!f0j3BD8!@a5~A+$!11=|(S
icI<H?>=.<YD5BWdgmD+tCRmiY)K<(GFUwT6E=7gj[zaS:*_5hl!_d5)=NF&VGMS0h@!;oVRV#4Nfw~BQ_ny#<UF9[y:w9^kMtEoBZFICvLY
;QYUr<nso4Wl^Xk<&sT@C@lmB(A6haQ#Y%F;kDDGw(h&qGL7[s~(%,Lj~iWEHM_g%jS=|oWl_Nf=mVdon@a$L_qhj9PVcY1oI=6:&+7$k<zg
nvjK?t7.)W)Nh|o7Ks4Y_vmS?E&R64z3tm@>9Z=X2CH1=lmgHN?+7@e!c!8!K;>U[i@5npI7b1@.rH?8h95t:M%KH)9pOB6[#RwI0O1]jU]S
;zRcj;mq7Z;@(%xQe=1124t[3M;:.D9sk+tM[;O<Oy_DH3XHSa]*xb9>,S=vhW?#NuGBnsH.cf68IJQKqq8(Z$Y87#My>D;!5OqP=ZDZ<R%U
^a0gPLvDzA3VERRTs_OJlZc,%ZLC+JVxHjW=>w<Yo!m+R=@GCD=Vvg^jkM=>~GMX3vofeSc=3@mJ=nEW__zN[7Pg99M$<*Jh5!hS]j~;DC21
diRJH3~?V&I#VgftHRn0M<vw~3>tCM~5qsVT1t#e=MIX<+^<Xl&nCF^8N0]Uy&?HBsb41E*b>qC)z00cV^u++FFSQPEkjhC8vvPvi*58M5P@
4mpjwDd3SMTTX$1~fWrkI.iZphII&)152ytn]UZ)xdLr:j,z;,8BsjJJoGdHQ:F~loYrsu.Y.@ndA!|3!cg,RyoIRN76BoYRRHe,Fu$#l1Hz
BXD_p:j9grTL:Y^WsX2iBhfN@&<KPSSdi0?O$5>:@4sVpct.z!q+eL(_?xctO2SBSgOQHUQo!mW6]ki@>@lm_C?yUxJrvNX7D%w$O,UQO++f
>v0fFzZ9GRhwhtiV1v<KGaZM>FS.2hklrjtxztGKWX~=~Pmr+_dF(Y&4h2,ee(pLfZ_~VbCSGGF%k3oztal+xXaC^]8|nG3]cVMHtL=0cv6K
YsZ$$zxEt1QJBn5BWMcxxmn;WiRk=[UmfgM!Y,KKsC<!((VU1p71Vo$zgiwd1,Y0Iw><Rhn9)~wR^LPJ=h,<ySmmchLOsfBK=V.@SPZ[FwqH
*<,7qb%iq,Ly,]PCev2nTSW0|n[W+WzzmJ~z:.Cxy$EB5lL5&i~zQIZwNeod24cb..@6)Uv;cY1sbJxLN|Gj6pba=A$]o4W5dkAT$?~1IDL3
=oyw)^CIOKKiI0en[Y>KfGLPmwM!VKP.+DeH>Csb[<s(AmZWw!04dzHv0#ZDVb7U~4_e?zq4oC3[5[v(WFaZEZ]d=LLJ0x*tLB|I=4IXF0l|
vN>M=jjr)Zt?)1Wy_Sn#<Hw=G>l~~%59Sejcv*c(,HuT2p?y1FB3O6Ldq#<t_EDs%RDlquZ+6TxbxCbgq,&AizNtzGd16Cdb);^1]Zp0Iald
z;Uv)t*_#F+N4(<W@I_tji2<?,k]*|p:#)TJ.7XU]HL4(6eQy$mH<oh0f@Y_4@V_BMrd;JRKRw=^w!^%<fdr[?|aI;!hsi!qtPvM[XcQm2rX
RC^~=AnlFhki?ps*Uoh8D_)_iaqusfnhVDVbqT9]?:dlldLX?RYy=dLu0Q~>p!|95$N!%;L~TN@9&JB~@FbOJQk+0Z7>FJivcyGRN9j|j$2V
J)_)2WszJZ4pH8NNG@+.hjq5^_|8FU]I?9a^U56~]d+kCkZu]0>;$;^R^^,jT#6QkwZeK_.P%8HWUhj^cYno3?5!@ymV;t>R.(A#_d^or<s@
|sI&kEzlD2hCh[N@resN1#;SD=iAW]l5saxfGD#c<|=yuAJ%GlYK6LL5=DDwP=nvlF3Gd6E|1<U@Yp;Hyl,TqVB6~h@u[%A;s~XbG1_+d*8J
#2%Y=Gj_*+nIZwg:HdTm[eE~B!%nxWUNyZ*4wW8oG?ngv]BWo_3Uai)6Rd;v;9!7f;mBQ.uq^23XSP]=o8ay$5T@yOsR!ZyG5[O1)yz*TPPA
!8g+kz;!MZ|m2nOQJ>e7&c~EPbY>BkMbeqFK^$G=O^s:rI:?6+393Ugi27w$>2[VBaBtu%X>.B?fWghVK~lRHBiQkuekF0DKpm%>>+p<gYPE
)x14,*9+qL,G<9tmyAbyR*7wQ^pWbP.R^9f3w)ST4x>RXNkow_m4KOzZvqQI%DG3Jq|X$OD0A=mN3)#4>Eq9yNd,UgA<BWr|eun+#L$Z7q2O
@8:%7,ytr+WbLIyfbL<vcu8j4LGk!]#;[#we]8tIoFL*OQBE(!Gnrw#S@FbEKOOaFf39WOS(K>F(B[WpA3@mLcVdTm1C4FaUEk)z#y]+:mxB
59!~W:Z6L5gRk1&M4!4w2s;Ok3o$pK|0.!is1_Eu50,p]Tersc5wnUy.fn8n&0Ha$UIo*gTJ9ZWyO8hf4XtGq8m,$:Ta4j$xw5.kx$,I^:hW
oUWkpi=bPiT&RhS:wmGU7zzl^!ntSKP!JP45](:xAT:!:4&hSp7TV1iB8>>b+m!qQD[Bt+L;hooWYu:AU>MX5jJ^QR*k:dgNav8=d[#*$.<)
tOtk~5+LizlIbOR%$_GweJCm@]WDa7&^=<&Qn13Dj=t*<Oa0tY(8]k(Y8H[Ca)Y[*TA.T_BEYw6(s3fBbRoC*fozAwI!:T#]+rlukfiB7RjO
|G|S*oG,D=(w$PEp[#N*etovA)CGg?E+QmR.oX]!cg5Za[Ll_T0=@.5x@,D=!j!wJWq9JmFKGH!dX)|6pI|[*9j;LDr]z@yEe<wNX0Ll&G1p
g0EsB:,La%%P]e]DdA#fhzrPb(gY.W,8dv#Pv~i:zIqC4Xwv<$bEEt~$5Zc(*sf2ZpkJ3wQ>Ix,iV_S1m5@PV:2Ufu^H3tM:)I^G#Og>)fNN
1z(xDc25JSa%>EUe&4m]uV%K+vswaWw,g!zz7@QMEv^Lo$]DODUhNIq;>3tC~v@3[*>qZ.k8sUYLUB^KXiu?oSMW1V(0y@B::$[jZC@k[hS:
)t^8,WW6G3:n8lTnY.VV<pD[hq9_$ncmqbpF5;5.,2D[gY>SM%~cK4J|:<ije3j%*7!Ghr!fKb%fd6E;.X,upjJ#8DHSa)?g|n)Le|~]YqpJ
QA3uCYG*&,4m5V|f]n6W.b1eTItnJ8=UxK7YGmi3r08h7yvvVW&76#4Di)XW[%xkkpGti7l<Y@HERUT=.?5@jWqWbaAGq37U<+D~slr*Eenk
!!.[O~&0RvbuI+m?Z,ok^cD6;F9@qJL?~&]eD7[4_Neg4*Ga=_UIT.hVp^GOWaxcdVW6@a,dTa$^hH0Xz<6]>s[pbN$Ukq]q,Mq)n9;)KUDH
%;_u)T.rXH2dr<Q1ChC=dNOol6l&h4Jj2@7Ty*C4?xP,x118_~lUV3qt@HyPdDtWb,0D2DRW,&pARc(t?u.jF(,P<)B~rioc2zYd&#nC5CX@
5%;~0#>)XlAfz5eQQ3Er#4FC,ZSLO~r~H[Oz3mFpB2jV:^1u4(02)gVEme.P&StC&hoF(;c53K]rVsFuIi=E@T?nYOcrmy~lie@?#WTC9y=J
JAlRJ.^,lbE4L,C.(.:]mxP14*ibEk<RN@8@<^(GB,].=3Iw^[_V.!P)wC_cK&,f,g,F#kX^mi|Eby=(R^^aGeRf1heMkoEKaJq%I=tzN|Wr
wf30uuIW17GF37|[7A02)(bf+E^]^xkhj,pH$GaE:A,R>bR.On@c5)hy[eV2JsNF!i+.O<e%=24A$)~n#536;fIpn(^+|0z(ce|csu*^$mFe
L#~I:_S0KcLPEGB$bSUPdrKQIqc3?SznBo%$K*~00G>KJWhU^?yk2lD;j<W,Rvy&@v@SNOd^mV6.?mFGa?Nw<yf]hch+;zRIp%6c!f$CIfxA
$:Rdxo%mj,mZn)3ueyP99x0S!OGEvzdQSogsi%?I=w>;8&t=WesJQ:VE4#Ez&#0;67@OyG:P,P.u#!xA.Yv=wzL2P^5MXu9g)2f,F0ETX[vn
s6m8cT0NB|$M6RJAP(g*Mx(E]w)VWOK5Emi=(1s75RvPi!#k)we(InZ>YUj.v:It@%3U]=0#8FuX)V|d5_NpMK%KcHfhXZTo@2Y5,k]GUfqS
vfH2]ymgk40.i<RS=T*Cd842R,Sx,QZsouwp.e4D1c)kGQ.OK6dZ0iuNa_#a=||zJ]:>XsR,CJ@vXGazioE[:?,046;igdg>Fd!caGU!;S|?
]iyUR5iFNz<>rgz~^=fbg^]KQl.G_j!&uPhy_;p=P#RmM>|LLm)OcQU~m,OLZ!o5Wv4E?;p81!7jXW.>+[Dpi);<gmW<kASj,+!1]5$DdDp4
LQwgllYh|cP6<DR,!(UGz^%E2*3oT37INw%S:<0vdj!vyZ=)(Ool6w?qhw*@AZLv)GWD[tYBpM8#We^5_Vz(_TT|dR=>ScM,(n&403m)p.$9
<Pu?%X^PKwB]MIX(in$#Zm6b)s42Tb:XxaGdpE*=,P0iKTu_^y0JiFHQQIQGmEZmU7mcL|UsO(b8q~W%9tU=G^AV#S_n?y+W%hhH$m6h;+SA
@U(u*X;nOc.5ZiQl)_jED~UJbLqBa:Meu#jj7IQ@y!b?omp6bMr^p.>fab70Ee6Oyq7bsbJ]eM>[4<iP=Eh|;v,Ut%q)N(TPT]k$ViLl0O*f
ZI,>#T0<QBDj>kbpP,Zia(6G2sN.j15@MLH_muqByJa^>pHW6XnT_3$V#kPhS7>%;vF;Of2Rn3WH](n#7?Z^_F~FeCbD@oFTO^I3zM1f*36L
l)vA[U1Ywy?];PM@aI^OzKXj5S[38TghbtCqYuRV1ij8,JwI_e@b$]~D~jU7Xv5Kx>ctPZlf!XHrb#>7A7M4<xKVVdvN5hc+G^~V.:;Nt^6u
[%8MZu#bJX0B56lND?f9rtoo@Mcofspaiu=Q726E[e8v4W493Y4CO=5zdL0:2Q&|ZXz)C!youGs@Gk;[VE:;9ZPTV~iTYR.7gM7BKP~#r5=!
4TG$al?xIi=4a%^4gE&m(JBjye<j;>5V4:cCD+R(a]j?;2;hK:[YX^tGa:]aIqJBBb2VFGu~|#o9&.I_MkK@Ny^SZ^X*6i)tGtU:+JzR:VbO
=Q8?]+s2npl2Ew7QUg3zy=IZgpN,Gpj3SFt])9f!a|5IZOu9jg<oB(O&B])UJ~le<6yFqX^:p!]X9A]uQ_fblM3;+t,AMr9m8L3M_LAnh6k!
XF1yIg5lZY5Y[fX8mbg8Q?WX:1K3U9un1xpL4Zdqz4oN4Z#6=u$rF[xg81;N@DG@du!p;mWYsYi$X%jVzNFImjxiOq|F|wBfOEo^n5C9VuJ|
LvfVSYEIgM]h=UF5hjHp][NiKh8KQSV(cs.+eb!Z~tUV75w]9n8Wltp^sM_TP@9^6[VM(%nvy[ISy:rXtBBDf1@UD:gt^j_LUuhhklK$dk8g
EZ>yy52BAz*R1kI(Xl^hBb:T6gIA7?;mn2A*%nMc4rmZ#iuQHTzcZ=:M(&jTn>q92wqFCRv]l~V@p@HTgwTFqQMd2)g=WpiBYIuG^s3m?~1j
b|D.XT%MQTp^SKfK>M6<EgEK[|eKco@k@FQerje4.yT.L*=OUwG[:z.7;m9PrO<AaL:Uh?HbkH7[wSaZ;U,eEnbVn1lVr#=u<)WrC~9@x=:l
3|]E.mOUHo+rF0_@3KHageT0Ka;Jn*qqlb%qeUs.?:#Yc<@FgR?@w@u3kfID?0FKz6Auk0[(yAwCpFn^Bi~N&]B$hFPR[W4>SBDP?^h+e.vF
^];LK~r_&MmlPau]ts,yPT4dXm~d_[NbB<ZjCp;(,&P^V%]_dJe|5VpONJUvU^OkW~qKMZZvgyOew]!lYTgU,bC#*~i5R@dD+jNsvYFk:V%g
.D~DwAaI*Bnqv9jY4AiWzu4^IQl^KM;f>?mJt5.UkBPv0J%l00IB21;4,B~%cpTOuTo2,WqIPmE?W60z[K+dY3oaH36eVBKr&iMgI7bU90t%
5TpbFqu[TlZ[bebgxw^H,nQb1N7Jfs^LEjY*#Q#*;o*mo|rvtVzgM.ZlBKAHXE:H%u+X2CgCivQg&vlcH[1%9B~ydV#7Gbl:nq?3$xKV@h*,
jlC*%Ir$1Pk~E,Y?hWZpP*)a;,(p,VKoGH<$eu#:5Lalw[#DSP;;cBBuurOP^VO7@;+xR#W>MjEdr:u>smow*U^SDM>26~loHZ8kFLq^g,EX
W|6l9EtkA9;;.ULIhYr8Mn$l!w6oVen;;0!nB>^iHbwPGqMUWACAzoDxu)E+!>QYW.3@l#E6.V6V:R*cVJ|wnH$D%Ag,*1qb)FuDzKhyaa9.
Tjr%6t3pLBX<OPKi5|xmp6RMT_q[*cP$Of>h|3ZLjcbKqJwVZkjR%%VM0(&q~:C|+b>@tyYr2pn~zo8!@I6SPju[Itbz5UobyB_=0yQ7uJ?q
HzO*6r@>d^yBMo%cdBeYWXnKT<9|cTQY]WLxsw1F(Q.<ux.hCd?3xQL?r[i;&A?xU.KuqmlJ@27H3q[u_w7C%zC@t!I)QsC3<xp$DW%WdSD5
8i<)q~p)Z]Aow7I0$2BojDa7AlyC[AHyq6!,TIx|USm<k]I*z~nHqv3_]J[3zn[su?n#c=Mv4au<z5+<y%*?FXjdtT]qz>jqDXaX,C|Eh&st
]jeklM&tNre[Di$fd+,51jd:Zd]ueKN7QRe$vO9:%+Ja!+@fwexd]GFJ[R[,$Cjv*ao*XJNU[=w0RObF=[~dXz>(Za6fL3R?OlZ>_SC8l]SH
nHM1PSwSNLBrBeOm6&#9;lIVmWDhD(>&|ybFXN[yy,sqwJFqHSR^|~br2Cj#Pv@pU4uS=IwWYuS=^9NrJ3%2L=jZy9_~KQiF&UDsopZt:YVR
jeGyGb;):f|>N%WI<%,y^MfZ+(GKygkqy~icW)knhmN7kD@66*V<~=YfC_<V4CUP+Z=NliresSg;6#b$,G]~:vq01PR@v&#gO%D48EF%.[*W
fEjjO#Z_t&J_.gRETktOrc~pZ?Odde]s|&Gm3wnn:f??zMl:@_~Yn?fk1Pm5w[>#rPo57I]g~PFy,@U9#H(kubJ~&![Yn_5|gTj4zHqA4J~O
~MYo&OOXG&)S|46>@.$40IUni9Vq6g|)@R=b>)ubHw#5D<M)6zQX32IlLptnlgZWGA(Zx7W^,%XacM?j=0g[gAHyxO)FRbOh[<N[QolBH~cH
A>YbI4;L;x73=#m%wZvGCv9.M_d3m2%r=L(.>W(t;uvz@wl06JLd0yFo.JzTYPL5AyvmeqDB7GFz+S>6[S2P(>mAiOyV!W9(QL0sEpS_8l,E
;ZpoU5FV(nD4|+C9@w_sg7ITvcIsa?GTxVS)NFS_Co6.lQVv)bfhiD%BR_ae:~@G7KK~bjyinUXLSsx2;NNJ%e(?D@[GsrfM4irLno9:dQVn
+nZQ7.x+nu[P?L9]UGt;~)O3v=3=e7he;Scs9kE?Q>voWcEvOnXCLD;VW_st4PUODctH7Fid3p8d6?6L4%DoWGd1<kXQ0R>k*eVWIFE[Sq5K
k;5gg#FYg3[2G*z|lj@VA<3[|SH<ni7@*LO*+34t0V.YWkLMxggAxp!WUt?&)XH[E*@!g<yh#@~o~y@GY++2U&hFn<~Y^yp8rpx)#umY9ux[
Xa0LHGx^kKWUFqYQ#H+o)La]|G%$1*gbaAgcn2=lUNPl|@wuE[dcmBhh|(qZ@%Tp[%PW6(v)2j_r7tm1y@f[v~p_3ZrUztBGs!5[Ssk6H2,n
xOEqkEiz|(u0FBIGvy;I#?#:_~+y:GuKc~MK*5(<%>q(&;aunZV5g>cHe$cD*Vi2xXK:3laL#$!5HZhYTOuH!~X5C.Flze5ry5WuC@Lbj;=D
0ZuY$ao?8<liEkP[[a&Ay@Bynv.q=h.xfSpG7o?t^Xb&BW<Nn(bnI;9:dWA4P6MiOZ~OwNwr~r%yn_6D~O(UHZ$l1f*Bth^c.8=Eodw2pomo
U%V&YUY3iOMYW0AdAq>O%K_IMHlICbQ7d>uU,f!YI%J9aZG&7vb_q&bPOQi[RD&7[&Gz[RXEH^M(Rc8@J+XsP]He^AZIo<94wY~Ehs|mQ(ef
.Ro;~@R7H7R^84|B&n@xmc?cw,1C($T%HltBNg5syddRgYvDW>mNi:YbcldO3B4dGz#dfX?];~OW>#NB3FWqT#GHrVT&Vb!9<,X$jkv%zHzk
,(Y3Ml@0Tw=[$FC%?aQ;77F)|WhutwpSv9SUn|qDB)JIB#IOkC0>1Oa_g!bflv;6thwp]yf,<zby[YMH#Zj!K,i:^Hgl&lU6ivwLt]y&s*tk
N]<YNR:a8H<7N2gjZj69;I.MHI(nkyFsm1B6phOnGHwr&z,TI||d?:L3K%NCC&.<J<k@5d;];Uzy&gJO12:4I2STJ~XpWeRc_OMf;iH+gz1K
[hzt4P(Y$,>f)%MRWC%_E[:9oSQ7wwK@6^$#$J0ZtFi._<a(V7R+m17A?o)(dEtTtg%,Nsgs0^TJ1k0]>0LVpj]6g5JLtQ]i.]1!hnPIYfko
0t(<S_T;bQex$iMwS:rxd8VMm4Ei5IGKpH1gJh]Q|>KFSw54sgIK9h85tq(HQaie!)d*gYIY0%T<tkQgk+.o2QU|#YhqO7UhTQK:r#Wjc6OT
?(l:f=RhnlqDW_(Q]_u*Wc;|m?dURr8L=ow!zo@[L6>jMj*hH^J?3T]Jx+r_kki!UR7g=TIq0W7CtrsOo.;f3^&^2)&QPU?(>CxN9vECOOEf
z9wL$kEpPa2FOzRYvC<9D(4QD~CkSSfWp2AGuahOH<6pK!Ky;vS>D&#99%QEje>tial,Rdqf)T;hnfS18Wi*ePQhisit*uM*7e=&*9o$v?Kh
<U:%O%vvdp9tUI_]J[#$j>_*Cm,43AgY=9<In>1D%DsD+6dBn#*oA9~1tQf,1L#<vbI!KxGJWsR~%T1QCGb<!oJX(]bv[6e!=~r2tGjzZ|3I
bzg=4bfr9J5I[~sJH5bLw5wmmc%J[U%g)zQ#r=HCUmyIO*H2aV&,!CGog_2n;;i._q0M:.:)kv(W=3y7E6PmLtn;xQ5g<2r&;7,hJYxkG+wS
0(b6$vP]DFc)HRv9=eX!tG!q0,!0^G~=KT],[y2m|up*vEXs9vrz?gUm40Jkf8uuYCmc*C!LJfZuaZ|H$_+]ABKqzjm%A)7UkkFV[L8>tZcW
AMPv!u|bY>mQAV2AQzo_P|RgV#MTtv$#%u$N73xgJ)+2uDX,5GO<jNNFVFP_8tGG0ZpWLF|q:h&3NiDOL~P]+u,(UvZ)tmzd@aii=oo|YkhO
G_j.Bnv;c7@$e4<J_yC>N.*tmv2SNd1xNjLBkC;(VC!@2i,*+qbQQ=2BAX~>uz)=v[rlsrh(p~2viD:)JUR3%_Aw<j_;#+J(5pbR]r%jzlZD
v8Uss<tn%]UmjJz)MU&0T0Y^NAb^AF^!+3.h#l9DFfxIZnJTs9)$e@iHe.cQ=jSokBuH<pN[^d*n_8Rt*~)tFF^U+i*I]tT(*$v1&cC?ASpg
]VUXqhSDxve@~aqtKL65o<^KP9G!Q1GAOM3yq3p*)iXFLzyB!eb^V;[DR<TIoQGS+MkwRw@8=@=P9~7w0)L#XGsNwbSZ:Z8ye5wu|~Q*zE|w
v:strJ%*R4&bMy&_AG^gn.M3YL12z?MK=1:cN[AJ!ZrI&EX|Y^aqi:OPd.g]&!H@lx~+tPvj:]i61X!ucZ<lsv@&_(R1%|v,050VR0Q=K7P9
DfqhbGJreV]^UyU>Kk>p0onJ4qaywz<r;Y5fo&L@fPKICeeL>V2t<L%T9>V,*GR7|ngu#$1y95V!xi)qCGlKoPD!Tf3F,u,ss6V=znIn<yG5
USj.y3K4|a8h.A+Fx$@Rdq5]EP?!]Fm~UAU!;jGNo|ku(nm0d^dnV5Y%?I@jOt(h)&604x@c5xjBbK)4,!FaMo%Sqk@@nCE?1Z>$uY5JF|u]
J#!3P|=),RW:MI|B^+.@B[>]aN@PRyAH*MGUp42a0I%XR2GHOVmz063sgOgM4_WF9<RIi*Fn*8tF.O,<9[HaeKuZh>c$HbL5$nBx&1rLXn23
)Ocr_*+v^T*(_,q=I#;DIKch<=s?!?eQ.*0tVPARA8PC=l0:2w_36^JVqC#!GQ@Tv?z$.AqcFhe9IvvqnN>qS^V1r@O_*d]#L$_?EA;^^v]^
Z0@l_ME&mf.0D@~P?zXP!=U&E[RPSv^q9d~lhseDa=23uNB8oGbuCA(5NvyN+NxEmJuWTwV[3q?I!kZKx7rtIWwA30gZE8:EUGRjhYRj=&7.
^Ru+]d|%(rMCyRJiZvS$,|E(u[p1LN6L*sztiU0LM,!<?sS!_Aja2+3.mq<3S((:XdIqPKJM2I?p[8G&)2GrYN#gV|_<N>0DKr+U%1g(XX,t
Fy1>W5ygmK=M%kK#9~n.Oq:bSPT_%PQkpsz4i92wdtZ:F.dv[b;,ah[(XcF)Jj:6w*SJ%2!iEvy[Kzff*(3=M@[KWNLUfqh(G<dRD?O9~bmH
0Mfix=2?!)C=r?Yi0q8aJOX9(c42mSb0LuI?_)gSm_]afa*>pQU[NE#Oi>B<zpmfzQ+pkx6xfg+W8?!Nddv$gxk8&|4v0b0Yu+PKP1(aPM>:
JEjDCG>V&yd%4]hU+aQdz;cc_x+:s?9lO<V6A~[flcI8_>[;^62e(H[)~H(=A6(>3(?_B$+j9,yY*|5f:cDrjcf[!1mG_EA^>HLrPI10I)ti
#hLy*<&r?V*%)L:Zig=areEQyS>@9PuY5#+aZ]O+%EEF4a>u>Rl!]PB0R1]jB1.0$ycaB8n!LVfsXt$.&l1e^Sdah*yp_F~orVOZ5c>Bd+])
KCmy)];j@!e2AgmVAo]GaITpN*jhIWo7AY:W$4rGVKxa@+Z7K&tD(;!#vBN3y]x+QRB;1ZnL8Z,kEI,ui[0tc.++p3+wk@k|bBRucPX30>Lk
dGbIVx0UMTQf#!f[V?E@b4K^B)rQI)3ANTjJOmbBJG.f)8]!,_~Ee3^d9WzUc4^Z.crP<v0k1kP(*b19NN6SnGoXaog,#NfZ|M(^@0Bh7AM=
#a%I+E5$g66N~+c=zJb1G0n<|y2E]2|p=dcyeZa3a>O_d>2fl|+l?WeUiR6)@e[?H6w7f(@]iaZI^P:[2D,Ov=_<Xfk:Agxz_TOK;:HS>NFq
HojgKQZ32RtC?^aji=oH#+Jcq9+NfWgxnQoAH;yTc%c(^Nf.z0[vFA<Tup0X?wxL6630t0YYtE)BzOSGuEfD9L>CkP4W8@P5?@wKg.pI95rg
2LuS;IwA:@9vz3?DK,A<q7GG:&D.U&b1|](^H#4$R6m@irHeMn7|b[(VU0t7k+#=bKxS5Ran_!JvQ~[FvT:z|pjD@_ddik,#rklFYUF%t0El
HVB:Z_u4Jp:ULnxl1<%T:[A9DbQ*mehnI_eV|YZwmJvIOyGyb5ONp#fsV#qqV~Hb2~2Jp<&1+u3GB;Hqj4g&,M>rW5o]f8*!5eeB%vK._fek
IDRE*I6wQftUi,zc]m<^*z0~Sj6~Jx@xlSgS%=ik=5;NK+N.0$q14lF8BV?,K@[drV=.7L4hPU>IRz4^4P=)i?G|(BDEa8#@$$nz^*&Q(0sp
l6ELILVq?9cjR_i4]ef!.!]wVTG9Is#6S2jU8faVMh;bYwq8?+Ef44=00&lB58xt:U3cCV,1YcINyKO5p0Oh4w#3@M~uF5!*wD]7DqOwE4_z
Aq|QR#C1[*0R_Zt|9Xe_h@!.ZdFv&2Z8JE0J|2laa1!LATjsAuShoilK9PjryqG,KtiO~<VM|uVu2%^i<@Pc[,22uf;[k3YERl|,nWzAgZ*V
KYyG;,4i~Q>gE5LPZrY8ZBc35<*b+&<=kPec28YRnYi$k<H&yCRF[nr6hibajOTluhk[rN5zbW|HtktMupq*QCQHkqUV2guqk85_o|6SPs$n
jAj4Hm95!k.RKKx|SP?U|Fw<W(j$CYh1*DG,%8t=hv<A#!s$TxH&n],GX!OxsStl5EyjQF#=,IUD728kkGP%j^[sO5t!U0y9?xY>92nF[yP3
J>k_2etdD<#!4m*[Me~+GTO=#gpoNswd!|brM$3qRvz*?<IjF>IY<((T%,b+i%Ms7ABSE&&t1kL_2)3M+qQ>#+^]0|N)WvxWNoVLXxAKM&00
YG9j,k|&jxSa~1h?!<_th]Ma:c8UI;jy?BJj!P<3e@SX;j?cyB5aP)BSJ6$gL4@,*6<]u=t#]+Yl2[+mT#dbm2|dF1H.wd?MF^:CY>r+];6R
2kd<3Cb?9[L*u1bu)|wwkfi,PK8b>6QYal%O]^q+D|:_xW+&y>,9K~.6c6LryogZ|O^;SqIm=!5y]YG@z@kWS5o!OB82JUQBQ:H2K8hOh53y
h2xbUCAYMkFlsJ>whidVZTe=DI%+TZ?VM]nVgy;>afXxR7W6Nsf[xD|(JxF:Y&(1:hSIc?~30r9bWwfFs6!j.EIj1Ins[GES@2~znBGug)b[
d4Hzw0Sb!B[(>UOV@[IIY=VYbD8|$@Ym(zvffck9IgCXdg##L>me5tBd111dh9atwXId=%G!+@TW@.ZHmFsT%_sbz!|.P2Q;c4&wjk:LgF&J
Gh!BDaZTjZTz7CkBUy?4;MG(m)Baz5L_0<u5JV&*3lCry!*o]??ty@tTf:^tTUKlIe!5!!.LZNTkwG|PXm9o*0JP?r_8,;>aCO+SOsxZ5;<q
7Z.Y2yy:XRPZ]KjVQDhGC=++Oc2F<5$badfu^nGJO[NIHvV?BqNT:_xJ:fZDCVPI:tII6$ZzPP;jX5EhmFi]=?,pr+TBl!W1Yd_>S9~yo7!7
<pr=2Pkr!q;jW3|[zX[T:Ir<b507S.9d84z(]PhvowH^*)J2nkb_d>NO8_mr%e[e!+b5txHj7kr[+]DyAV6R#xZXFnz=TvGr@1%>[$P&GF_j
K:Qwxvf7oVY$:9vQ;5YjUcpRPo.AmTvn;A$bzXFF9@gy!>xW4J($?X5:k$~ft5&H!7cq5yy~eI4vO^PLw;+A8Si>+4aWV_QzXK;%tu4>RC|9
oF+7:aiuW]R5TAq!5g7H72OkR_hDm~*(W<hq~EPH*T[cMr[jwX==,l=VOtf7?1)slusrYNte>ki%$0TRk2K]!_5Z@pUQs5Ibo=*0,=3;qRCd
xetxTgSS:dTxNwl<uqSv$1_;8l(TGPRT.h!2cKCZ%,#WPJe60u@|vo9yRK^IdnLtbi4E.CGey??>4HNKOYatO!L9UcT)oAsb,[HmVq#P(+XB
~WB8^k*2^#Y4&GjE,cC0*mkeQiG*u#L~))<|6*+#)e3@f8~Pb8+;qU9~_a4=wn0P6FuhHyciYw,gK^rXPz;1T1Twb,PpIlZ@||l|^QxQb]|<
albCA1tpV#)m?UK<mRkTWJ.5vFzm1hxIPwk2>G#yvV,bbjvkpL^x>vEb.zK?heofp8:#.2s%iQX.X>$MAU)esd<SGh67&Thhg2.E($&%eoBL
iK%edgd8Fo^6@0m)H);IW2p]+QG[Ft9l,@$cdljcbAcx)UX7@Ud^YseCgvcDaNu]tyRu4#62hiaJ^taUmVD?!nxvWO?H!$7+2<TKv*7(<&_i
b_7k>B0fS!7AED<wQpiepH&(#IS.bIE;#Rcho!H_8.cqMfNGF<[j26TZt$DTdwg>7Qy~rsVUr?!!Rtj%&6YdG[PfVHepMst|l2IqEQqL:*Zg
|JCSrRoE|4PsUHK7jQ,az4GF9V@ydx.rtob*dk0V+eKdP+bcP7;[ZaG[bHZ6C<mds#laonkW$Uq0PB5?r~[ICvDdC.W(MYz[p0j?xI)zufNH
=:%JnV6.+7=(SlgCnL3CCKhdl?A5>9y9Vt&A17F|SqBaoC6t4bwN@)yqW[QJoc(g_D:LQZiomZ*[,eAsV3NbPn3+sG*|7|)YLx:hXQJDj7L,
nNlt1FMU<cZ.~mLvAwhbjuj9|nhpqhc*LiQjp^~zJWSixcsOQEM0Ti_<s]_]&Op$<NB]GjB$XSEK%N2PY.2g[caZ:opZg_R#T|p6LFko3xIv
sLEuE0nSfTt_)@,Z&PS79+n%_!+.9,rew4$NEvb.1]?w.s&~W7y]=gP,FyrA$OQZxsnlnis[;0ZeJliK$+(;:IiG:0W9~[jkgRZ<XSgR>;$n
G4Q)9AW]V>O5el2,K3FVQzScCc%~g4OPs(&$iJ28qnQkM|v8>>]#gbO^AZa|vS#ZX3JGla[uYoy7;A|ZpfOAYoeYdo2r(vihaW5gAroZPo*B
a0q;UMjk3e4|YDNFZ,kE6~0*qAS6q5!AzO.AO2,N+@6#V(Fr!i~^3C^fLu]Fh%8wJL&R$B$4xcPEz[pWo)PG^m&7S)qeCn,0G<FhVh)tsiX~
KYVc.&YvN,!N~^DS(fY=YzT$(oZW:OmSz5o@$(U40F(xp+fVBLC.ap6:ugTYDgzE.;##A.1Mi_bN^Zof,z*HtrQKD:2&%&lhNyysl_r_?vD(
zk@1.Y#pb],2SvIDYIY(WP&lX;y79xUQQ%t<tO&JxI^l,;kf@M:9H..&D?MGnS#O0f.@fjpWP(NNThWRz+[+^*c3#CH,[o=?j=+(Dl^D<(td
dB9==aFdrL]1eDvo3q)r]&agpn_R@?.,cB[+.Q*d&OE$@,i9ocNoHL.*?ysSJ(H#N)?ajt2ito7;raYGK7$SY3x1v83#Lo%Pfght]LM+d#h9
ISNu$8Cm%EC|RC(87<SC(Ep;$it1<<t7WX#$0E+fkL:2.9;.D,9Q=npPTR#j4$,wC)Wqr+Dr!dC!4rQPlA(#h)AnKh+lf?#]fDe*>+Osl$#Q
Q<mZu1Mg[uC]dN6aA;T%UsQL4V]XUf:&m?]>,kZa;IWbd8w(sI@*>+LJ#W6!0y]q4XlfU.t__Nz.sKM_:0?L3[=C9zy5cG6gPV,V?XH<kgz^
(??5]kE:Su(Ds#Wzgze#^j^HTN5=1z3VCv%c<26*QFl3YO|qG[!Ufd%Jtntok|63TG:J+hrEG^(haHY7dej7(hH,fx3E96G7o5<?1RN#thMP
@QXoz1SD|Fg:zCO|)T%FODcbFW&G<(tGJ85l>6o?MqC6!@wEXj<G0EMmcBUO)r(IJg~93<7vUspc!XtmlY4^|JsJJ69+u1.S1ZT<o!NZC4](
aY#B8A7HSAhWB%t0z5Rc_xGqk(lt[HJ.yBkweq5!9y=NG@HZB+NjoyiwN;>N_^Yiw<|wVL;i9apVA*GyKS]#OV(1_f[8$.XF]2>OXf4..gfX
tU%Bpb=ta>6c&F>h]@649?zr=%VilfEQ=1.j|T&X~O?wlOlfxGlD|oQLCSHV>LLrJ!iflM)&~qhxP9Sy>#ePZ?n2F<~mi[YQrm>UrU#wjFZ9
$fDT>Lrg05%r6e=:Fc332y>:7s*8@65Xeg=TR)Dj)msm>B+vQvc,+Fm(BGg;VIMpnZ=Z_DIB@kR&76>Wp?f:)Cw[I,qKdD>jBspj#dxwE<&i
ybUReaC6X7>.@.=;6w~QYtAO&daANv^WXDfdosCqprky&dHPUi|*)GMU4:)tBIr#P=$^GTA,$S&^3_(u[qajTep2,d.a#KzwJ9Xq6evbHxF4
ce0vnVfg|D6n%[lj;#|=ivKe7Dr1!Z)1Bvm$@Jx[t!x3&4Tl+oO]:rdxjypF:Nsj?nD|z~h0Ia]m^N5eeNfaac3K*&sV1A@dpPeS|h4r*A_w
26iJkd9#iQ]o>MYPD%qmAFh>;(&,BiXS3:HF3if=vVc9.U!AKc#s~o|ruTMPbIS_WWMe*1Tnfsi6%%|@?u(|:,N$@Z4ZWwyc$40rnfwGJzx3
+QJ:#DT<o6]7%n>dN5;l@eL(S43sTZo&w,tLEyITGKod9gly:KpCjIFGsv5wjMBIDjtPQtk%Q^+^ce+Br=RBdE%9opgqb&?B#g^sy5gq^o1u
]lAhH%pYu[v=~p>KKRda0Cnqvc(*$4E>dv+]~)Krrs.ZAq:zqGm3lZnDJQ&TVGmv&qwOd+*7L$1j!4<8<8d(J]yDCJ1@frTz.Psne|~zEPQE
cNv!<J[$T;~!zSvh3=%MEi3YzF8bg>lV6ad2+#FOzPEtJ6Y9D~ep=ZN,CtP5t?yYK4Yb*gro*Q7;NII,vloaG>YGT(A#lAlBX=r7~2=.*70w
eP&9u<d<e(M(_E&VWnv:R4OhvxnFok^mItr$=u>.q?._@~1!Tl!B<C8ru?LpMh1hrD?Ae)i$Ft0Y,:zL>Jpu%gDc^,xPfN9+HE9Yx#)OSzmE
E6>8To?QZlHb0;4,9>ZLG^7XI>a.3#07Q5+MtI,%VSy.d55QqWaC6!W:>>+r?>hd9Mom9ZA_b~:=#%Nm_.yq)Ti!0G_6|EiJ_TOtLD6yqw6S
vFQ[3O9DpVGqCO;_KuiAze=6*+!%Cz;ve@eB,U(U(YLT%TO4C#Y,O]+:61>ohkYsYuR;BS![<Zh~9S.dq1ItPkBz:@cou#|z@Kbuy~dQLjhs
nw!p|B!Kra;i&US7kxFq6n[Bsi@l,|K5LGr+3]n[?=sBWbt>nWF,S:7xgwKJq%Zy<GgXMhP5B>dtN&AxSe9u9?Tzn*G<5IY_nD7XPr6ub>KO
zN(:R7D8NfGLpj9ll_M1WB2jb.)<(ul]vw0jOx3gk?AjNkx!^bDAX*sx?>WQHcmsQzQ=Y_JNYNqvRa_F,@Nf+c#TXUJ@EHyrZWGJE=Y?bY]^
yCue+zMzRq@icx88?Ayit:vWZgE0yk66C&Et)H?&+5Ax](skMi>*;m1t=[eFQXM5NK4HY<D~D>SCRaP8G[[A=2g7|GSuk%&pn!2H&Y^@Q(h]
ly9)*>vN62g7qGF|rf]q^kRSh(2i3PcgniXP?aylbXlxY]q[rQhV>%%w7Zo$Ahs0URv!HAIVzKYopAw4,,(+gW;rb?MgMucIh_K4iXf*X)ey
ek&GW~%xZv^j,&CTN.0@qIL5M1=3R>Bw<k0k_6mwG$X@?yn>TDmb~1=GNkV@tk~C>^hEKhLmB?[~iTK:osAAai@XKBdK8,+7VXSzv4&Vs=!B
2eD,r3rVjwNkP4?j@&b<shc2S:TY87YeSmn4+jhG^Fu>[Ak@DlWCDn!k(60#^G*>y[]]Oog@:PLVW??|x#dct;7Qno>O0$&ka_<d$oc_Dl>N
K;imGo&nUV<5j7guk0AS3rCCO+E^BN>;s[.EPm.u#*5QKbnO=zoj1vX7&z4%~AuL$6N(UV+Idcj5UU[|2@BDSDWel[ipDNJn2De5ZHcwHMRE
A6&4oV=u~j7;S7ru0ekj*m0mf|^=fhF:=M7yW+?0tf?xepneeJ|6)T:C,>yk6g|B);ZZ2C_31R!@@@yjC,VPRnx*pzdg,j4.lin>y~PZ.qiJ
iuppmuL~$z<!cltmbk^~T;7yz!qW.AGPQIh*oSZMPVCSJGqfxn~^m+:HmdXItLm@qj&nbcuoo%m@^uZl#40[p]CLp*r~Swt|9:[C(Q<PN?g:
W_5Q$E5pM*(oxCSmh<f^BA$j6p0>aW8g=w6iBm81oF,O+avnRUQd.](CXGh)p2|TwyR;?[iv%QxQdB2Tdh|CXUz?_~<:_2(U|gv4k>jMxBmC
VmDExlw0|+3Y2v3,!OMNBG[[c(zc.(ooi(16aqCio]8Ijb4B6]r4fL89Mh7<[jtaKrX@xeO0k6X|4jc|l.=i)?8Q+>0@c:$D4r>P5m(>;7YP
3_jb&ZA(AjTe*^zDDCRmcNTg03Kr:YcGnhD@L2W+#bMD%y;rq9QrxfIs<Oug=]tG=,lN8P~e9)!u49gIG0~yuQf6?Nf%x?DZAZDf&BzM]8f_
|<>2ct2*3Q0e#>!5(njCi]FH:t!%Eq9ar+CDXf):)UB6<r;SUY<Jo;9tQ>$??A!>msOlSq94%=tv+TcL)Z=!o|r,SJS6>(8sa&>|k]gia29x
$AcRY86c6w$+MwU?s1.E<:0*RdUO=O;v%Hx*~CqiE7,@AEj4N38AkmmNRD~Y:hg@o,#f;b83GA@a1iD2$vlFC]ysCv>MfuM.B_5zgIVYsV|p
G,IZWy=gP&>lM&%cY?)f|akNK6uXjBWE[(F(I3hqY,Idp|BlP=RQk)DgeM8AYl(KC%FEQV)?n9pZhwyIAaZKRe:8]xR1Lj(OH^,+KMZz=.zA
K;~$v&$N7(<:SU;(Xv6l2iS@y*fqE|]:aB,<am@;n50E6wC8vKz=mq2Q!rWt@4$(X^yHZRgmdlc]F&J,|=qRQOuzbHI_2L@ivoeBAju_7iup
8nP;3O*42:ekth^#xy!p;dt<!VB~BW2I+W9|[=_Jfn@&He+c;[_t1x)pP;2iz(RxE]+cs4@5)zE|<)QGpr:c#>;vjXAbyT!54(9&pGb;h?P;
wWK#?5t,PE3j(jVHl1>]kc55l?Y:U!@hWU(|3A_yco2z=xao?ma1Km>)VAWRgsVf;:KhB92#0315>GP!)!J+Q&KftD3QBfom$NydfPO3X3oJ
&W3(YoC*Ib$?~4TzWP3|J(E:b.5pQnd+Hrn^_bvj+pVU@to+7deZKI?a?%o&_]i61*l1$j#gn9y_Ey8xI,xSk%]K4Ufg8,oXg#S*pw5Fjp9$
_~cco~@]dW~87z(1)8Rb3,RBLQaMi^s(#7.*HX,(<9PXr%OM#S*?[9_Hfpw~hrBYSS452YvPu|L&W@t|MxQMNpKl_Rw?3~GkPFIT$Z4jv<oA
aSuS+hKkW.%lFi^NZl0C&3IO~:P,EqP]LuG>y*[iiXxE7fh.U]G=B1%Xw4eg8oim.Ks)U@hmm&Z&tjpe[g<npDoAc?i+]E|s|51K)n)uXT)%
r|>0_olfN<?kpiv6P9VpMO[0u33GQ6fbr6hvs|F:G9X(~oqKPRcsRv7*CHit,0sCcZ[V[qw&YORIjxhLhy&|eRD>_HcO;HLP%opuy0s)m)6N
|B2W:i?Ri&PJHqhcsz!5^7Y?v?y91oSwUOGhSTA_GULZ7zG7~CVpEF2oJ=D*ZQ+$J@~|sBGmJ%T)^12RSX*jnW$[oG.@zv=)VBr+S)EwAJ4a
)D*|*1yCp!.buQYzSVbx!s*ezoDFnJ7KWTgvdK5eo,KvjLT=an?Ig1H22yUQdZ.77ld(|^~(<wa_Wa^l:?.%+[T7TU@7i7EossNkHYY@n!Mr
hYxpc[?h!?AkAft@?AY_^9it]PR*TO|v3ZMvS^AjCS+|?y2ZQ(8$@:.EwQ0>BFpx(3*AWy9+HMp!62u^g|c7%AZcG=9^tNyhx_y0BK>g2%g0
j]20c3f>*lfS5>_U@IL?wQcY7Dc=0I;7G~HD|e[D8Q~W%sdTX(qF72yzHtWBl3.lQ;[$Mp?k6n#$*cCis^EM?<uI<)BPj)+1t!1MU9x4)k?P
0_V$Cyu2wrNYnpkT2;=@DMG#+Q.7zCQRE$P1xZ8fSwmifdjs=XVmUD8Hcq4^54ElW)]fFZU(Y#PSt!ozf)e&5F#)S7<*fyaV0fj46w8?50T[
N1<NN!6f6&|t<p>y,22dkBz=c^?4i.R5Nk)Cf_,3pBkh1PY58MS5r!vO#S.&TQC)^k&D&Z@ySZ,kkNF9a,+=Ho(7AH4=;Xi+!nhZ;_!ga6_f
J^_U[s>ii!TBucI>^MP[5wWCpR^xGpXOMk4k#&C|!:~?$qQbKg4QskMS7^New4<?i^zd!_wLz|8pr|V>?@&]]uf<hctlFpa|^lC^qi+m~@dB
s!)Pg=y:E8N:cVgsqFMbP_<Dm~di9@%?[l0jl@zl+hIAyfHJ>3reI%M2]tSH;)<|whK<qM()Xv4#AIgpoUIkgVqEj=0j|3r:1Vi$Yhskv]Jy
ZJAMN)r>y4>d:47oS__J59T@^n]8vEP^P;FrvdkG6AoBe~?4y0Z;rdU~,np+KL6b3J8&19HuoTevjv!xn6oYGrDgQ[=muE1K;89yPc|6fGoF
7MdXHjjAUZK.xWj6Z%,J[^*gq:.7;:Zs)S*V!^8wSRa?ER[CDv#tt@X0IsGn8Qro%R=z|3r73#Gb3_*,PenPK<NP<G~F2_=(VDS~j$!(uzhE
G6a+Iw!zGA;EBBX!db+7Ii.H<|6.YLM+tp4yrNj0^n[x_T9|N]9&L#HL>9(1y#!D05xui<OPbWPuD$~#<wUN0D~f3T)F%o~ZK0N+KlvEmILg
+,[0*V*Ea@7u]p5$A=8eiYgWsU>@PU2Bu#pJK7).9j|)qMqB,wZ8at44X=7~var&8k<c#=z)T.;P52LcIdvG&93)kc])GBs8V]]S;+u.?y<d
IMtY+8TC&&@>dpin|Ns6^ps[![l3oSP>AP9c%2lFsgJ$9G>,1~yeR:n7!EfZ%8X&LrduvLB4gA0D)rYCArT<Yjb0E8AqmS3lrzv9uNAd>J0]
[KU.ZZ~0hcQ5Xf1NRDet5T[hNL7$|z=D1jd]LyhkX88u7[k49CJAkd1(nu&husb3wrq33h!JGO9FJCi.CdvGE_25kW9IZ;H[ke2W!;cak2OP
z*$l=_2nhQUqgt_AYHDkWeTAbu9FNyHd[)Wt3|@^M%+)fPJ~mS?hG4*;Xt6dtNV[5Hr$*wWqSBv;|T2S<M(CTRq:F=RkZ]>&O!KhE7Bce_Aw
G#;CFs,;(8kV[rxo3?e+!f(d.m~(e+eMFV|lUD~hyLq%Uvaj)(C<dM0XE83pEmDWMEJlB:dbDQ#jsTaYYRbED@8L_O3xjl!~1i3,273W_zwf
Ve&2=QhJ=JH9>z>d:2RshSd)pBni?4SkZhu=KG*z[LS9_JU_eYVy$G4pWcU<q_1Fw+I@OK0Hf_<Gao<ZNyR|qTtVk<QaCoxSq~;qK&v~PhJ!
z%RN=&4)az(VHqL<d(BiLqDuBp*DF)3,w[kbfpcA,nPc0OFr4+k0.Ds.mw!R,*NO^~t[4)FY@)f2iMhc%8jkVOlIlBFqldzphVA3w6+Z1^T.
)we=S?OpsOPVq3=c)7j6ePA;A8U4WDE?de[a$XZUeqb,LY08wUCvC,ukU0eU94lmfQ7*c=V#B5T>&Px_rVU[by=cu,2;<w=sERKmO_(!8N0^
C!nI4lVIbQqOExDB:ITZBtT@9F(si|rW]z1W0ZJ(2Vf.$BxYu=vgVLTjhuHXM[(W3ysnM=?=qc%jj~HsPdZe0*P|eCk]>=anZ(X5gj9KM_kG
#9K5Orw3tZP<Jl~P0=C^+lxByjczSEE[sSPK0]=bF=wKxb^7hF|K3GZQftNY]k.nY+=_FQk48;SEjHouYC<0.P8__NG?h%<EoZ5s5G!p*OA!
F,LZ5eO(7@f]Hlh9lzq=WYUb$D$y.Rko~vXj)7Y0ipf|2uZIBU[c[iLf&UViS!pu=WRl36F<?Og&lB:;*m#(|8KHis4fbDEv%=nn*8NV%q+J
KqMKZ1QriG0pog:^XWc&hhEF8(CFRVa1y,fubr0=y^V).c.=|@[Toz*asLp2^=v(XwhANTC)dmHO6c&zr&JxyQb_L9CB+yRi?6Mt@AP.f.v0
bW*l^*<WXv[SA6R8NFLS+#@t]tK(u9XIE_:VrG#Pp~2*xhc,8Cl5^ML%a^tC7RM>Ud6>JlZr:;o%=qw[tS1U,1@lu?FQuge|wh|H$6gj@DuE
=T%HHA>9P^^sm*[!P_hI.iOPt>b%*nzE3Qt8ULXv0>a2fvV1<n#_45^9VI5|yIZV[k8dDHjBqOn$y2MaQKD()GJe*!Fl|5Zi93Abh=u9G%B*
.n:b9lWj<)W*^i>nXDcp~+l;HC[jdM2^;+q78@[%7Sl<l%.HJA879xPb3mxaI#Q[wbUNcJqciqYV||*X_I[d>8c;=:p|vpa<ZK0DcOjO]H%P
4NVZKIA^;xV|8!De&EzvOsNRE2qDuepH#U!n8zf4k]aPtx)@]u:q10Nb=eh2N(Znm,3yf4MaKJCmqUnk.zJK1t]*4;4!(!x]]Gkdeq3Ha)s.
_BY<qx<G5~jS?>3?Q(bspsW=N?Ot%D?kov&iAbAo^ULnMPH?a<UHhJSJ[xIHieW2^ZN1mD(%N3@|]C$h%G(_J4Z>l6L!E#4EhAoZfd?Bhznj
hS>5orYQ@r_OfqC&Wb##sAj;.2@IeUJN&9F+4Trp)W^MZ%^DjER>(#OG8>U2Q!,ZO3O$98q6[_s2V&HrsOq4jPW>_Lra:f2gIW<vZ5sO;571
KsukyBgJmuu9E7p(KEPNN(OZYjFVH*g>7e$*].Jyolke:fmVL=ve)3q~R:CC#c&pgI|?s!MDs>8^YgS]u^=p<52My8teX0^n@BCrYLC=]..y
6CONsOW^m7E#b<W%XrZ8[3G0:4*_+pK6W&Y7tu:kVB$NDf|5wpBJg=8nn%ZCwb?ECmXZym8@dq?iZzY_J#y2Y+^t$^1@B<Ve@U#h]=SQ*Dxk
xMk&5GbOH8b03d<SP#P*2t!a2Q]25^<B0fWfENY;mXvMBUSiU>I(sl5e]90B@cCp_]6F:z(UemO9n^kTK]^R_naXIOLI[X,sI!77l*=O)bxM
TZWg:s$DcR$z@ph=kOfBsJD:H(@|PH$@uU.pOf~!zPy]j9(@Z~QDU>@%JX#Su3fF&8J=4uvi9SBA;0qR8TE)6~wno3IAV:7,V75KkALOjQYv
<dDqAJ$2;)iJj@7IRDWz@TTz$5+(4eG&|zM.,W(EbA7LU*P@fNlt(fdVp$]e:H*QM1BHnPIFzFE<l>VU&4iLOnNH1VH(Sx5&>p=oN&*(QlMw
)%V2l>FaIj@|28At6m?]Bn:NrMblUgQ4a:TlLVuhBN(#Nq]Lcm48da3r:n)B|DdQbJ)imfC[nEnPzGrY!Z%BVK!YIPJ|E$(goZyW827yyOef
P&T+fwE^)c+eO:HSqkExE7;G&dj~A4|Mg4OXUY+*Jn#v|8D11L^t@hfEeY(=8+ecplfPy,m4rv@7xQl+MgatPvR#==.rbadZ4HotV3.=r9)L
ZRKi:K&#)|>,&6FOtmR:y,b)m$b~+BMm~b^ovRI~vYL3>S>:yl!Ztb7_.Y#BiD~_gijLLlOh18[j^vGmWxDD*s(7EDR?@RT3B+!Qm;QpIP[p
.TDQeQNn[drsBSAY3$$D6j0t=NtTHl0To<bmF=ZxO_xGc0^yZ&n%5exu,,E=cyitX+6u?N2@neWp@j)&JFMH,vdu#*~LD1VUW)uNXqVvzVsY
TeDu=++>^YTM5tngFb0h,CM:&YO1MK4rbQS)rL=A9InD6B[$XjA(&>>t,Ju<iEz6=1$V(u3<Nb6(fuhP!_Qv)Z(L>e(.3~MCg,@.mP2Y$HtY
:Se>gNHge8:RO$MRm%S;5I]qZ<3%d~3kgVd5)&poqf~XZdu&g|C(89d5]<9*CeP!74#yqx0P]g>WBLw7EMQAFItGpJmULD$3GlBOGu%14EpY
2JA?uP@;Z?Qx9io=~TAyt9f<ZNDv6BWevAmhAmv&t|@zH?].[|yozJ=_0?FgjdFj%Lb=*)Xbq&He*.,gYlBl6QG[70Cn2Hk#i+kORPGg&Y!a
_n:bf&+]aTzpKMFdeuxtE*]YpZ~>7.0Xhb%gbRKFLRPQDKUjaDa4H%NW:ioZ.Ra:3(*|i&4LJ.IO|UJzhk|uT<Gujd95]BMyM;ws1mZPi3TM
+3CE2Ql9<1D5AhBv3PrEG2L)gK]ffM]CR=6[9xmYLfGXnu@qU5,EbU6OfSPkj>I$bkYi.^0TN0o1Luh]gfsmJ5eDk3)8c<mUKm7&Mt5Jm=$H
Y9c1stX8w#925CMG!y%c.8Q2;Pf2W]HhF<CObT@tBCSPiX(Bk!nRU.)3XT8pCsA76)]q#40Lt$Ism5!.|,|k0sBD.PGX@LIgVDxUQTT=knjd
Wtiu9b6.V#R)z2naDLW1JwSnowdu%18rHa>Qn8cyN|FiC@3sMxl_0q;NbfT[T$HAJ)~47SMMliJY5HuH)mFhEc>aU1&PxOOOk;07Em7ltnjg
Zn.wmW;0^eOzW7BHx,tk>g<24(T;HchP[dpxjLuSd(2J3a^=IR^6eHVktv>DVVzV[wzQDu6(IJp7Hszpd:3P2l*PiIRkmpMz.c$[_]GZVvJs
Glpv<N79G9v0p_W.JAH_i$7>JlkI;md%HI[uq8sUPbE+),j)3M|K1EMtkNjHthsUj5VjZN8zu5;uQR#|FzvGo(]@@cg;qNSYhr[!_2GIG2+n
T>!0e=5zyk6Aonl&1fo~z(J?nM4,G=cf#1R:<vR|:Ak0f4(:c_2JVZs4>ZQn5Qi_CWLIZvE.R.Cx+$W4DH%qf9~vvqOsYBGql+E<?:h7ll~7
b.<#1uxG;0Ms*r09A]icvuzE(3czgIh|*RvE8Cfpv%tU.Ibeq5rLHM]!(_dsl3Jnikes+*B=Hk)M*,OD_>Zvq7:f|X#LSCjQ,:B[~8Ok*Jlc
W!tXvy.H_C0lX0syaq4cweMs|LN)PaZ)y)C41i*A8E3wOP~8UKTY8onWocx%Atzc]aYR#9ym9vNLdlQdy^%2S]!|F2]N(Ymndv)ZEc]+(f*P
<rfvkEcJci|[pSmi2^[v_?ea%O[1)^5gP1X1hR|@X;k93m1zK&.ny]_)6^])gWs&aSb:gCo6=O]4x;XUMeeogqlIN9Z<A~v*FPCjcwLtv4wx
j=?F*?7NZY*@d1]x>jRL(oXbLOkB;koMWY)s|[^^48B&ks<N]e|nOvkOQQf;Iy[]nLrKcYiJDnn!tYXGU_w!odt;$Z_@?_5rD,zL;=tV1(KD
4f>07ElE)exo+o4(8eUE]Qbn[x~#p*Rug_Y=.bi=t7MXeL,I,Wazn&SMj^VGDB#;3:jIA78bDj%@nCS792t=Pke1i5Jfsr<3lJ[@v6&i[|k&
|2>#I>j,AZ1madBI&,4izA$qh$wl<,8&+!RB?v.Kyq(Zb27(G48:arnU0c#N:O=z7w6l3wd%H.l]e^c8o.@V_M>oZFSjYoK^&+]%(l|_%>9C
zi[#K11%yNkv)steR0hzKD1_xB8z+;u?sK@q;&x(EWV[etghg3sE$fzkg>9yi$#XCv80#a5@<Zofb,Ky??Wb6MuS:_S~ys0~FuNz@20P:Ft5
dQYC&x@vqURT<ic7stBuL1uds9!(7Il<b9>E,zY,WzNu&2lBZ:|N6LUn(pwDzL@R(uI1@QpX8)fh5TVuasv!D)p%eBNwY48kZoDBn,n[x7!f
5+NI_PO>*z(KyH[%+jB6^=XM>m@p<<vXtd&?wN,CSGg.]i@p+XaxTExCO,eYa9;QKL%:LXPcg9C5ZG7NtnN%:p]MY?vXbc6I*oZoky98@h00
oHW?[yl?*$#7,U=kLM~okVsD=aitNOxe]Ba*oA%tZj)gRfYkR~@P:>ZasH$F!olMD$wPT^aCa|)0!u0hS#F$1zB@I==)*wU%LtYZxa5)5hM*
)S4Q0RSvC_^1;687c[<*YxcaDf+wXol>EuEHx6>Jqt[k4WE7pmAxXZjdLdCd7i+PNePmUHyZ+BQ1N01^fR[&FsZ=IC!mjSq9SJ+r]eGnXPUv
*B2+^%r_8R6KVO)P@1=X!q=M&CNyD92.Trrcxd.F$oWZvm98by<uF*6gz^(I$e~$<<G$32,s@_bt<RIz+O<dEt<NQXG6s_.U_i~BamDs@D!G
)r;(~[v2JY3w=+nKbMsSt]S_c<mXKu@@eO!D.hkD3b;w#|xdY:z6+iqT%#y1b_dDPD*0*j8.nY:z|A[u5~zUiG|Gla!&vQuB+)t2j)@>9]cF
&#3e4I7QE%zs]5vej1Al#jxpV>=>w~,h4e%z8&=llftM)t&Z.+UMcjcUp#yXIC|]yoU8+M~)p.eFlND9wM&$D3#.[%~.*OAt<17?%J#SJbU^
+[id!Fqgl^4p~jRQY+n.Zr)MU;%*!ye:s[vB1bZo_Hx1tT0l+kgfbZ9a?:zW#E)6Zh;<agy?rp9A*L1L91o#G2@Q<+Wz$ZE7lKf[7:5#_cje
<Ks3x!mS|^p=mLAv.M.xqNEeG$kkHtopeUa.]50toC;*H4L~+l2PG2uc|hCJ6;lEN7f!X#wZFui@VA<2Az:$i|b2y_T<HpO@LnZ;T52eH@a,
g=tv3GSl=PRzh_n(92bo>xr~z8P*6[M85N?~B.7YL@zad~WgJc<)IiLoK,G6l$Gj92o0qK~Wg#8xDhNq:~|jwXNEz_WZTytB?V7^:r2Og1Fs
qh$=UMNN,Ce^$i~*F@KG![vp~7tCYefpZ|Xn>8u?>%(Jo4;A_1@D=NN_6mzo9AlN|F*P5LczX7@WY@27A#Pz6vAu_i)8(f]l(yHcva;a^UG)
x^tBu~:A%WV>3QopAwp1nn2<?Fu0ha)^,,[~Vje)H3usm(hwBd%oS:)>eu5L@VD?xhg.UTc](z((<1q[5TkP;717&N44.Fm__=vWuQXuX?)G
u0G!W26pqj+U@j&(T^*lDJ.#:)Eli3yoORzU7sTMj]V^?FOmCRPKV)Tm8Si?!?H:?=$w.Z7Z1()e1I$ol~=9q<=?.dIfsWDgttI;C2tSRcnz
J~vg?5;!iLvPAa4#([1CzAEKh6=~~:&GnM2[cZZHv)|NqHVyB=b~fJ5Ci*,_QQG;<F1xr1.BkWS+t1]Xi+D<XSaM&G#6JAKmQgdVpdG,YMA.
F!oWt4#bog~:b?0*&K8@[F7YrLtg3zm..%U~it2ykGQ2fHC,L~JgP_(C>Q3,yAuefVQ(bdB2uy#qLRL>hFSY[yjhOw%gY&K1!K<gk(>#+1Zc
hNWM,DHQ13,%)F5q(4@=G&,|4i$3x.y=Iq*:8$!N:X,Dy7mz#sJM4>2t0Doa7=hd:@(Jh)n$oamV?9nMoqhnhL65=v=?Tv@|#Fx[b]*Tn)u|
&df4y?g(VT@Pd?@s$r.QPoJp[DKF]JH8;3Zstom3c&?~3!2[A;ms=YQcAVd(<&^12KQVu(*TwW<fa8s^^JI7TpqXr,H&M.RIWVlT3MV?@t>U
z<~87Tp?XrC!yr$ifpH0tbtzajKCUN1gu0:PTpd;2~ibe5s_#M|87WITcrzX7BrKv^>UolG0?<n6nOmQof@C.p5lkSiu;YV=Q5Ok();NUaNk
Cx;jed#etn#;Y~#,rpUpnnOmCe.nFd1n5VltO.B2j1(48z2!|Sy#knzl%WL$8l0&xx@Bv+@9rU!Y]h<S_Af1+$[,]zhn@y;dW^Gr#Z+S#QbX
r,MI|,OH43Wv~.6QW8Y<ZnJHN?FIWzh,0R82:I_e^kzf!KYo:7ef*8z~*byS_s2>>giE)exN4!vGBb^E+sz|Fz7^;mA&h;5<6l]2N|_*y)iw
99XuwCXlqBd,=17>y:Cbx9M*M=:mf?5B%RQ1ng~Z,RSp55gaU~@_+MDL2?t4|^[Z(L<S<WcY7U7YZ2P75BCI)vbjqS*9?zk9&9Zf[Yhx48%t
xh6y)mCJ,^_LN)KCHGG&:WjpNoVV)n9<]H%4P%k4*f25h1a3Hv[NF1Mc~rUYpP3L9nZ[XQyEP[40:N+gDKZG*PR%[GK*ggLJDuR@ua%tS9N8
E)<@WUaY0o12]*9bql1~M|FiNMBCNP#HRIXx?T9jZ:].BR_E6V;X=]fOYho|x)~IdU]2blR(<XLx0OZ]PjG93ObD0DaH<1VJe..:g.l_%cJD
^YkQv.#~$e^Ho_la4EC;l;i$51+%h?lR+>IqAR4;qBjZPm?x|N=qJ++8XYX>CAIdt7BO@>KSa?4.W9z>OUOifIMe[w640f3]S=b|4DZ6a*8>
&^h^=<9B#n@m=Vd51Y%zm;w~bL(8?4|B%7&K447,p1a+oFA>~P11c:$wgXn[.pQBnP=x8L)79($nL~G&j%QVkh)tb>BvwQ?dI+8Gd)4#9T,0
]vYnUBUBAZPHs@|)j4c:2QlE*91#zyhf5PI2v~cfd!*IxNqxE3Q.jsg|CvC^Q!V#JbPRsd>,XI1qby^l,lA1[E_v(9DS~;EewAfF5*5b,pl[
vV4R,Z*W5:26CE(:LLQTMEv[=h]!?b(X3wQxz81@9eAC3@zR51n>I#AY:88tls|)Db063,vO;5[.+]t|=8vh%]DswK5JJ%EbTx2$#[7ni(3x
NKr<q+7<c.[PCgRIP@eVD_]]NzM1*o,,,d4zB0_#K<D)u:fb!)~D<TmmfCy+4MHJoZTiEMOmHXbs$I=K+rvd7^b!~^f)@bdgaQdK2+Ky.jU^
5XEs#+FVUQ=u^1T8F8nb2XE6)+*GP[9M)9A<c*5(7@O?~p:b)ZH5!,1>nlAG%kM!Sk&;_4(J[**)|N,J2Ko~EwuZ2Ufl7?*[?1,G3X+rrY%5
?afTtW>=ibcIeqGE)4n.&M8:xYLm8UfhBqjfZlJJ^sW8BBNvN*B?a!tD@=I<4nwJ39_AxOP~uCSB%;o6XcHVef?T%_E&ak4YN|K^Fo]k^[T1
>xd5uM*vPoznISPP<:T8g@$Aa~S;byCYAeH#AfpM~E@QS0o?TFifqv81RA+0~+#4:1Uqzo#Jb)4,m8OSK^Ai3H1Cd0NOkSH24=id8li&KsSI
T#2X9cdRW=NL!l1T2sfOgG!k7#zF?R9k@;~h,TpAh$EYNMZb&H]C@Sly99pJ>h=iHq=ayN0D%*e@WW|64gMq+W6pw!*e.O9EbHF~X,|8!tLZ
+?&rIG=[kiK>U$8,JSuSaee|;Lq4P1qJ9%cmGS;EIUTMshydg0p!l]uQohgY4^KD5T60d=e(%Gu,RCxcHfXk7dao5kq=YD|FKKCAZfSbtRI$
pw56AEZ#_l4<E5qWdrpO0X,|CMhT._AVV(N>+NjCNaWjoaYetX42N8]|gP@|x(F*wH|lJ1.Tu|K4TI94dV$0V?p=l><|^_Jv!8?6;2BOE8Ga
^>iMsBYH^GmZ;g09H%fJCWFs<B~~P,Ls6QCi~t?s@XYN|LlqzJ$BMu=pAFQg8*Q=qcaJ<lK8V2]XwRn(j$FkJL8X5V|I5IY;+R_02qsCazOT
)bAS9UvoDC.KSnR)::OzTXB[xnk$xV_Vp>jk)M,Gs^Plz^;i,]fU>0.|5|U^ac!Xni3bVM2OFF*1~tA((w[)F8+1%oA~T1*.FP&16KI)W;.#
^IO<?MekROF4aEISB0L@?4Kn(tAz1%QC=x~tZTR=hw?L@l&jc$mg<xc>N>i&~h!*ozLBnX;!S[AI(t=@Fm(b4cH<cn0u4tS,&?]>.W18H+cg
7ucz$~g.]@uk>K2J>I!>U,^,o|*i6;<GwPy)<G=[Pag&su#i0,DToXuPjGI5x~:ns[9^4d?@Vbn1y7%l=WtXOa4NAqziCpcXvF|?PN;CVM30
F$4TsP|K4V.43tZ=3&<D%D$f=ACE,!iI*)Q<96(L&0~(b?6gxxFq&BzB.GD<a6.V*F*~Xwnrj7*1>|kgi*1lh+G>1gPjWPKw5D~2GzRSR;Nb
90;9t.5>=t[!|*[dKliS,V.63J)=aD=#WQ([;@f45mUNZh(OlU^=EA(9&ExzVlX8J=!z>h(Z%OH,6xk)Tstv!qpx,;smhz0[&gk2P&Hx$hTv
xJ;nZ_Knok%QHmv1<@+$Xs!mhO!Vff^Fj#dd_<F^c,9u7(8U6_1c!?bY*Ks5Z6O?6>_%C&4jxE_d*|i1BPfL@lI^:5v~y3.6Iv]WhTQ1lQ>K
qQ.>@(3f8?mg!l#W#4z]H8%]tWBH,72p3ULb].d.T(.9N,Mo7NUk_[y~hRm|e*J?+he^D8.hKu;G+@hr~vLg<Tt1&KGgLz613mo8D[h0#6oN
<wmam5(5+ID7xO:r5PE]OYQJR,Fy;+|d3JTTld(0Wo(l8&hgPOqB[bPNU2(v8n:XER%yBH!0E08wd5O~22pJZc]p=i%X;Gz2)[HLMF9OW&]>
n~WQ$plvCLX+ULhxn+v5dQ!ttdm?q0rXgxv!M_hf?3xVAoz]W23@RrwEoe#goj*[>=4o.KygFE#Xitr8x;GQrYU[[~D=G<h&UududACKdWVO
l&RvfZ]8c6wi:Ys8A0poT.0TYucWrtMX8nhT>WjH@j_(MjX>uc=t(DM<64axPH_%+flqq]&*S)N$w.yZNaa~#66x$a1@7qNZ96MRo&Lcd:~k
T5Di:5n>Oci]#a?sGv&3vMLrj:jk<tQ@rXAY$_]LC;Z%%<3HsaWHog3O83Aq%Tu8F(#.*2u^mi&.J[_2HJi~*QTw_76cf>i5G5I7f+HU+dgV
eK=N2ha=xCZ0t$9~d_2_VH+(rBOm<6!eNvm<!|EIYtYoBeVxd1E&8OLc_X[XGH$gZU.0cZ6ZEej.X(YELzp[54)vl.*bW~6B:l,MLKL%N+w*
A7m&qP;v6O=>M)[*~KIiZCcl3JZMxflyW8qZ2dk2cs@XHc]o0N(RkPbYw#$Yvs<4QZUR<bzrcm*<KXC=D8pb;Iy>Ru|6XYX3A@SkeY[v[(Bf
9=y!sr2#@GZmg?J$^)W1:_fVkIen>V6dB=nSoB1J>?jw<bN^.Xq63PkXw$kK9NaFoUUCxb5V;kB*y6g_FXO%%R_#eS4t>;ba@4*.#ymG%kXT
H6p8FD[ZAlLy!TkEyZj8OD$Q1,ttWA6rX)wG54oR~w?x@oPLJ]QqKI9&z%ZwP8M<dxnasae61HTWd:Kz;)mF5h$6nv;4L1<ZRAp3zNADFqPh
@!)=&O6.<>kastYTNy!s#>6XiS1KoZ9bjE5=jQ?QXN9>Y%*%rQJ:pc*klt[bE(WScQZxh5upT0k$6h4xhM]WZXrL3y>(JuHS7uo#iCWY9N>q
!#+eu1h|d@Fu4raJ6Y&97AALmOdltoP8:5e.f;=q(o|BKoYoD8u&6=:yZy*MDoO).hh2dU$CDqpWMmruR+RvNF5|>p3CrZ;A$gy=B^4]ozVo
0pKan#KN7l1AIQ*(QzYyp8OghSavc?GQ~F,P=X1Wr@,pXq]]J#<%?vsCNhWK?0|:WhmqZY,[VxvW8Hv[!DRaKDV8I:NS5lX)3ICAj$3G>zH0
.ViYTr$CVQd:7po%LwydYHUy(6]^LOmc=li7HkN_C(ujwZa8lEKG+4(:Y$yOvjrWyTmT8.o+koaUe,;n]!LimeL3Mf>>nkr~CgW_L[Of*4PV
:NRl**tqqa)LZJfY.&n)F);*qNBQfp40lLO*TJYXfQh?Y4Zr>u~^<DLMMaZEh0<B8(b(.oqYSb=K^CNc!q4B~v1#>j^b[z<0:NcvLQ]&B7DD
fk2uJD?ZPX9>k?51;1*jvwem~_S=*[*ViwD6mCJQ9rDcEFb$|a(c~tL!O:QbFM?D$U.zYrzu#Hw!JEE:brLYNCbH$*St5QcV]n$:oCHu94qT
llz(#qFrnIW@K8AGK$2YzJFM%)^!HqX,&bxDQW0HrdV?yC0v3ANE8b3[1(?6kgniz>?A(@aovTnbcG0=$XxQCFG?lM*(GOGOVe|Gd!bjs8!|
c8lDu$Cy_=V1GlCXW.+R:P>l;(3_02a:6k,3v0d7Y;Kx#N@v;6Dr(g:KCXm@nZe(G&6D;O)Dl>EXw>7!~c+s6fp0!Hwd0X=3vVq$ygzh2g4[
@|e<.+!<C7M&+Myx]Ui?F@B:GYOH&0vTRHBL?[qOMQuX;<1u5_62nCjSw:N1H2K|al$QfKmtJ19^^[8,QPo.Sp9pA3;[z|vrPRrkMItfm>X%
UE_osZI?&^$_7SB]I,Va+_G*dSj,Ti.5u;krrsnycx0!d.eKRmoK1<EYEp#?Ohjg,5.@=Cw@JN07e7<]5Ew3.B:)jVBL7owpEqeUML*5H0xu
q%9mfBs63:u@z8J4@w*q8wd|e36XC)k|BdsielzKm+Du*4&D>gi_i3+<]baN&~t%&sI4[J;&#wjz6eknw8ITTQ~tnnIJK+aIoOjHFgQvXNJS
:vVIYQbi6jFUC211MCDCmE+gOonyf3s#0RWdNb~SGB8ir5ll14yKA]T#vCNJTS_.I)jU>vT60(FFIdoe&z=+U0ZW28ZdOPqiTxdZ6&:Z~7^y
a)5#0GP_<yzK$f&h+|>N56H|#U53Sxp*m]kjjU]FIsdpcSvm%lJHDrI+=6XDTs<X^E[&=MiLJ|OcxW^aX!]TS(d!cMs444L5R)6Wi?dsLD!3
XVDFw3#~]?A~rWGXB[;h[<q$FEx<2^3uuBwk;PLG)MO]m6_]M?E(uO)%O*lUcO?6SFE3^%8;bDV8D.+.|fOmU5N$s.@(FU5OL,2Jfy,<R59s
j5qBq4j(a[:<Q%*o+?GJM1~+0~(VjwGP?zQz##7Fn6XLFRD@qT%)$0.c[W:,rSZodssL,A!(1(w8UY9.Q&MiR@DU~#[rb9uN~^w[Q3sWPTsW
NsS=]T5eu;pbmdxOZ5$99hh.#;El99rO.nMGhRvTXDdWfH??W)$$ItftW|II=LSa]NN._%[%z):zwA<3@sKG1r4_As195FXm2S9Giq&?m)ls
ZumzYqIUo]b=OX<nCw&e:Dys<HrOV4E7*C>d*C&.Scwqgx]5))Up4_d!.pX.$*>?j3h.C%YaW^Us5qv*fl+u(=Niu&gXTw:QD)(SjI3dO@Sx
SnN2>HNOo1A|+NAqx&YDE,[i~MuJp3T2d![5^xl3aFQ3HW,OX!@|=]D5z]jB~vAkSq0[PVH>dnt0ImuzY!h!*X#Rs@sKsKnW@^OVVdG=#O.<
l>Pz*1a3@0d*U(Rg:l215l:%a1)sWGI++MR<Z9Ii>=9w+<a4<$60;b&T6++j%@QCGoB][HNf_A2N<l,XcO2;MM]zt4f$hqBl4?Y8Z|gntDBM
W&8G!Ot[|RQPFb]1[I5<:^[V3I?;SoMT&=CNB]dJzJ_o2Pj6X+~I*~#d=%u.>_V+D_#o.2aurl@i2^x].otYydkRIw35|^?f6z)1i][7Ab]%
>gLH,gtI7Cz?6.o|z1LTl0Gk[$h!LW=GR4>f5D,e8k.amOqP^_uNHJRr.LG_,Wy.u<(@F0mD.pih8_YF9%g8y)rCIXW2Nm__heOYRVu5.*aU
#9@e=zLbz2DT^Vuj@o4y[(!^)FAa[8%x9<rv08K+OKkJg^X4Hc2;<nj1jnDf1EhuDrkD.XMUtS~pTn<s%5dL!xyd%Q#E=N(ub6+rlAT3Q[!x
8fFBQ0X_r+:b@g+FnIh4Lk7)!bhq1qE5(eZi>W?6|Ij_rzeiUf<!^|._!rz2<Re,N?l!BsyXa)M[bv@rIKct4x.MF4JqKKYy07szSjXKKmeI
_!04EiGAO@whd)ztDbz!|g[ZG:x7i_ysmLRk)YM8Js!IHb+Q7q]W$v*Msl8bl~a@DEM$x5E^x[uW^:.8w^3cxy:?,o>w)A3zu.?QL*#@Tp2s
#vWi??q1sPY*D7PXhK0U68+ydH!PP9b_nUT~c9P3^i#Ri&J.]%KwvONYSB+Yn[]wTf7XM5@>gMi:H4%I1bM_9aG_(GYG_X4M.E@9di*i;Lr]
DOonH]Hl#,v|rb:kqj5^D1P8>8)fYJ;JliEj6;iL#.Fr[ViyQH+[Tbb(^<9MXlmjZtTlzpFWHcL7MyoPash%wy,SqAwR=TOd!^KPUuTsiqXr
,^7c]38H919jkIG|tYa,1]bda4Y^56:DO_O!Pap8bty|8^4_ug9iRDHK*Sdf!JWD.,;nvXoxc_ExHAXO&Qia!UUP4Trpc.cyAvw[;wI^#&)V
^~6[k84H;_6+xd~0>FTNM5*MWXQ^!.am^69KPYm=~4o*gui&z%Lg2;Jr?EXXfA*p#^AlflBC+~z<HsfAwF6BU((&>W%P=xoK];JV]Bc(!yIR
<v>B>@L%Q4bKE.PO.q|u||%Ig;>OMR^L>!]t,0OggCg<qLipjXOYxpXc:%w24CLrIhKl7W+NvS1i7QuspJ~MM,ZB|3a3h:#~HB2PD2j]rb8]
F:Nc?]q0CsepjlBA*sG8neN59Z,&0^z6x$xoT]yG.1yD?1(ubo%qc>oUTr,]2(<V+.w&F|3:$%7DLv+xXd:K(|&J+c@25oBn#bVPw>p|0z>1
Jq(~cECJl)xrH3<~k%r;m|bj(ALrV9xs1.>iA$$WUh|M(]GB^MWgPdQndNL&FtCRV1halTfPP;%_ND~WS(9$:G_&9Ch0h%3vh?nqSZ2.Kjz<
YGIUFy!pTQ2&#7J%dBct@9O03EhS$&%JTY,4oZrOBg<XsKfuqrEihtw[eXDp*~9.F&%YDrIn]U#<eVNV|%gW(6eGY1KPo,qq;UsD>W(_Y,Ro
@(N=RM6okY(qE[9^*ilC_[]_)<4pokz&?rV=duYx%[X(iby3a;^oe]#f.CS>EZw(vGyD_?do&c6|DHi,?WqFM6[|bVvgG[!)=&uH^x=6do,:
%<oYmbq,:QPsgQxn22y=h8;)<Jp;mmlLXJSuL(8O;JDc+5,RcJ4fdX8KprQ6=KtUeMzB~~S]*Q;toMC7C2^|_RjO?VKq7:Zv=p^,M~T6sPWV
.l,>%>Ht+=8=N2$l@(BV%pv8Vp~47Di4kG,w8@]X5^bJ?FZPue_F7?hFas_c.EcU4y!>%&.j4&PW@$,>F04rv;y+9kFtI08g*CsgWec2mN?0
Fvj>m$Ha5Lx1c(gdn=5Ld8WWt~4q3FdlpsBJ~v;p|U2)T5RQ><T>VBClS:_@@9l0daI!R5%;gg6)xJ6u;b86,+GpgGQLtApLJ&2ahBNnBHge
7Y|sQ:kTdtX38&o>4b6,J|c~b:B0IuKlWh7*sW>c2n3M.F#;l(:r6^,UkmgkO(Vq=uOT2;T*~1RZZgZ3!G0F9,]Ukp^#M)OyhtuckvH(B$Zh
Sj)1w8XN@*?SZAt%Y8:i9eS:Mxl|_USD]+rSL>Q[zSDur8dLi90Y2sHHn@%$hdDXeY25016dt=;[7;zZWQ1*[0U54jqgGCHSMk5.G0t+jgW1
[_GcfKu(~4ZSnCIs0TXmv1:U!~P4R0U~G>.6r>&dnPqeUM]1=%p?No_,GXRY7[?v~#L(aq?VLd*bYtt?s_EyE]BDKdg)~T0CQ]Q+w<:[zf0A
oNtp1GAd~Jx2atd2*%T$0J3~>]?4JaOXz:_swEakWx,vgOufZuh2%I~U^I:rxLHk61FYjYcW%AN9(4HI24vSC#T?h<n;0:fpScOnv5)B?y*R
Pk#KDw5=e8cA$,F7$aA9|V1E0^6(ChaN^LU+B<mxv6vgwjh#.bDcRwD~^Gf7Zq1g;sW61bP|HUnP4*,7.gpM5Uj#GILev[!y3bcL<t_jrxLo
BcqC&4TfWmhZR((ScwB;3A:WU=)Sy&)u5+F$NNGJ=b!h[NE.S7K=[HZX3T.3[~Z1wtVx~>u54@=gO6wZ!J^^g|UBISuRz2X93L8FNht#XnBS
hT2MqT^y[:zIT]I)0ibR977]T,n^MT<H++<CK:RdD[4#m)>xP7s)keOo;;Fr),0,sa;0O&d(?B_Cp5()1&myy|^lQI+P!#NmJnXy9G~hyH76
r%qMz!^[pbsi,)CSP_xxLDwG8*Ow9B;&$5|KguGw^$2brc0^e6LdRJBV%oZIKb|6$_u3O;VT7W7[D~l|nXD2:R_en!h3&MU_lOBA+Jv<;|jJ
6J(Khx]jlYZ3Gx.,11$N7lz2yykfpBzo:WIUEAPeKFm!)Xmz3X3?TS@X%I11JfUWn)v++YSW<qtjN61~J:?>_1.(uc>f&FJ#qE?|8XrctNHS
|EeBss844nN^|YE10Bn,Dt|=Lc5QDD_&qnPzauL~[cKHyGrt>T7q+scpp#6&&Nxj!6E88*L9CBStCwhtq|BfRTxh6<]F5AExNDsZsq@|m*>6
~3i&M_rJMmFt#ndUgdAEu=z#Jy3$1[)JNHFLXU~&@=^2iW3J8Q!,28Iw_G+@rHOf42Pg+yTIS@x8:YY~f2.vw(kb43TdLr_%6<7nGg]m;Z?s
ao^pbu_,7itq.]3Nbz>N$(3Hz4IZThEaMn#!L!=?gEyRXkPW|3l<*)gSG(&()UQw>G+c==LWsdvzhk#01a0sLK,mMsZyVhPgNxUS14py]jqJ
k>R.0|iEj7c<R:+@BB:0X[Pm7ebi:V3irrsjb+<Wc0R,gxQGFqdkLVs[Iu8!|P0G@*1b(dGU,.%1YT7S~)Tul]2KoTjoa8~8.^(NoTn@d@la
lhLATo;=$g4cRrN?jd<FmNAnxAfsxv&L.v^4<(=UHpUeNRs~DzIbqu0]^=.wo1kS>[&X4H><:[WB0z$oX]19wH2H|akj$.Af0rV,|>M+yb,g
~H%qBV2c?.h~S(t)Vx5nQ%.a[!|ruIN0Pehcs~IVl)5WMW?Kw8u:wWLPkY,@!]U<(l)!rrX@S7hT]bz*d(7E<.^&2A~|(_u^Da,.fPtmMdP3
hR7h^[GYe1)O3A#6]>@9|t6OxFbm|XWb,HRq~nn$Qy>@G%HSj92F$X^D33HWJrc=);j^:ZD1XX.9[nsg5&0k>l[A0KkF~b00nLw5eU~@bJ=b
gN(+0Aay7&[Y>nWzpNN#)7%MhdUnn,qssn!~[Sz@5M=x|Jzs]|YKDMR0R>:Lf>ubTRSbE.bqPej^ZNPX;b@pMA(R>B3@AIY[4je6vORn.h1W
ol2[Cz>BiEj$9c$9N9$q5kd~3=,Dv$5&6m9[F=O$]].yBp:Z0f9mp;sPZ>jHr.8k^CeyrLwV%rv!>(+@K,4ctNx)v[Vq51Sb)plx|?LXxp$F
d1(z[*!EweUi1lS]HJzl7BsA)z)WA*<WO:,FL?sUfiRWTxv=lD@R2o+w2>VYjfXv#YZ<7~Ipm<#cl3G&8[T8[na&NBL!LI[NJ)ziZZ:X0=:M
>eG8iHWJR^[>]neS%My;YjnIXo*Imu:>cpA?C#d7f+2ekr!@r70IygJhX(,@@Y_#zILb:.iQ6A%^X4D3,(c1J*I<pCFV+&W%yLga[0N1KngG
5*,:yDg>=&djgOam?_N?9Sb@cb_L7(7SRex^OPa!DnC=W#b[nl^[N[iT*0E]@V&Ss|#A+ywV+z>H$Wqig~^zH[,3:XefxW@GjlIV)TdK+Jg&
_0&>;W6ioGh[dwsdPuRuoQ8R,x%X9f^xhQ7;@8:fx;ZYPwo0zn&=+Ml7oD3rzM@V#JD:6>@I92c&>4+I56^Y9W~R*ayB@!]yO3q04TqjUTVv
*pXjB55Zk#]47a403.yAB2mA$e5O]:cOu!&*|nx|=(kZM$y&c>Xj2JE$mKYMV%O1T<T]A2PpVXSc8dXt~)qDPGA=>=Sv)14ZY3zuU9otOs]?
+_iOhs?z6rNFb_IK~3dM2U&?wW0).q#)y62[3Dlz(470Q+E*5ZP&.+ni]WlO9T[D.)b_PJk8NCDUgn(wRBH6C.t&wNHW~LOx%$K;2rf!7]67
OeSQtQ+XTdBmZNetkk=8tQn^UQuXNe]F.3MSR>JWLxXlwm|ZqF~%aG?Jpjqru7nS,JWI8r06v_H>uEdYendZ:%7ZGXLUyk<=x;te>rL0,f,x
4aIvP90SWp~WtRh,!i_qbla1tahtuB^U&@%u36BhSEQ*OUf@E@MK.p[~_O6YpY0Np4HIg?!&j*+d7V@H1VC0+LuwJMJy+YtYLb.FsdIo[Bfr
~pIV%KrMRZDO[&EnW&]%yE,Ypn805|UC0XVgkY=.&uOzy_~G@b=2BNG1JkNjGrKX5gc=co4.<qDN_S!*Sc8,a%Z7x:TT(,<XoBn(jih|cwAL
Q$MT!c$0>#tZg<]UApU(gFW!uyHb#fl+~[,sMc0J0_DZCAQZ[cD:8Xq4Q%08o_=Q!(Ib[EL6;tV*6gZ5M&kzt+9(d:$[@pJ$X;ZCGQ~78WNh
7@DGou~3~tC(cY&$o%7l<]:7ZVzzlN0x@J:Dv%yu4%9ro;)!+t=[xL#|HA!R[fZuopnFAoKfAv|>h>GNNz1~>s=sC:4<)]|YIZRG5GC)hJ&C
IWt_)TdcC8lNAzToi;.JAT##1Rc9]iTXLMJ:NrTXE<ihOj5c]Y3SV>pT4x$E:KvBBgRy(wQUM,1:W)R,i8_SJHP2c<a4S76sGTqRwMxG4rDR
Nm.Vu!x~.w%P!1#;(LcZDu?#Rr]DOR=v!HIjuyVzjf8doIO~;E*@!ZNu_8YY<1a4Il|=X5g]HX~&&?brarb8ZCvC(*eBv6U)N,Z8nSM[Yv>g
yUi|cZ#Z64p_~<d$]]L1C+w_Tyc1d0?AbjUtUR2|2,Vd(rH)88>$i=v>Equ_2deoRHm^8h3U>aZpk5u=BFV&=aae?[<CW~lAIJ:g4lzRD@J^
=Yh,paa1Fl<R8f2Px>hU.g_N>i6@^Zyy1SZc[s;3ofu6R(9$WV2z2z?>|&~RHm4[UMq*;H!kDRQPPO&.jEcoFzOQ3)8]fsg7TlQ9b:vuPr3B
i=$q,#7nk:&sIt&0^>DH*xJ5ZE5Kg,ogzta_EbDr6X?S%&h4o%Jyo%|R@$xLxgP)[Q(R:drhk1)U]Zv5Cc&xYvM=XVM<79l5Q2|)2^c7(yc#
Rox>F?<g.4#qjVg!CGr|z6Y]Fn.*jA1hT=Y(9^?Ei^9,ZEUq$.YiSW9l,C(UfD]HupN+Xm*Pfoh+f6BNq&bkny~hQyg#ybh+ODSsej_t1o(&
%E3ORgB7Syq.<<f0z#_8ni8#4i,jFZGhqF%xj?vm5IwpWw0CssL4b2?d[1M$r8[Su$1pX>sGw^P=+VT=Cj~vuT]T,pE9KK,w_7c+@%9&fFWH
b46=nb6=Y#swn2jcdk**Q[BAnpnU8jpbK8vQ~T,Fuil_vQHXku3I?|D?&6MkBoSaK=Q7204#y*=c@&l=Y5DXeH|nKu?)]eZMiy%=(PkR9Hf7
D&@K#RN)z@NI=kA_px=k;,s(;!X>Tr6;O*3]KW.45E5%FLvM(VkqPplOsBG1!Xo%Hh5G*fjHheZ$DfqQZ??Xl4,t[VCmX0L@P@9aTW1BuK,6
Sol]zAajOOPZdj$=tO46Lyc!P)VH3PxoDVvWU$=r,5mty<#[|S;4zwV#[#!4T)Yav|&z:bNHNll<W2G(r+t@HqZ)x8jg@1q+33y!QRc5EN=?
bF<njV.(C:xoC~AmC8W(HUG&%C*1LqkPn~iIr.N68#A>AiOHqq[%|1|~Kd!dAD3i~OM6QnsYWYW3!.C|gu)$,7Zs5nT9jusVOMD_POZOM+@~
)G<j=^gPUQ])9m$Yylny*EUu6^#;#!oDpzJ>f|2x<S[uZyQ??d]CF=O3$LiG]E*RgiCGG1Ujhp_]c2[~:(yB,aGXmGq)>vkLR.sh0h0.fr;N
Dip&,Y5E2a>N0RDX#jjg_^Ksc<E!0hpMwslv@,x,nBeupvH=9h)kL*~>Cx5vdwrxK~A~Oxe2wKgYl#MhYi^zhzG$pRgX:3$!Uar&B3XFPj&m
_aaI9rT%V1e.bnJiLDw%dqfh+km(w0ivKupIuYNz*D]>m_aYY@(+])Z:WK5L#UV7:El8&oO~G<m%ShDeEBRggmvWkHmKGmbz%88vR<S@=Ff~
62u5ERcps%$vPlaIO#EI|]V3S~([xkr=+5Sr2e.qf]Gnmj@2mX<828q.*t9E;!qq?a~~;^|QZgryp~2GmI._7@!U69EE_,PeFBk#[~Is@m$x
!=G&U:W0=B^SEJAc)O<)2!jP888t|qJ~qh?,@[H@)e=>CeQOeq@#1&0t?DD)ZvXBW%p=Wda5BpFoxQI]Irwa9X*<rRLVQv[>pKRA^*V|,K%Z
0dvVzN6pU6pwG#h&L#.;W6B+3.?mzj)dOA(Dq6cCgF1$i~ZF1GlrP;mjt!L:0S].=]6Cw6R1g8Ktz()ot]u6puMDI(<Hs3!+qwVc#As>[a(m
I00+fZsCe$APZ*>=#_me|TxeHbH8o|Srru,yX5XoQ>GWpZ1Y#+ymHX,_:Dbul^.w>=5~:.Gh@@|.AtkiUTFlOWs*l=2VGJP^_LIx!Ij9>$p!
Cb!UIsdcXjul4XgH6QuB&(C8DD5^y?jE=Wo0@t*3mp!dg=mHB5]IaVl^x8VdaW>UN0,zeG7.c8=uLI.CETO:[Li6t0G2tQNN3|tY!q>$Y_v#
JiI&k?5sqMz17Y)k[JJVXvva@j1r_~%luq<$Ds|*e$_ZgXk&^T0eg_.._BQm?H2DwUN;6(1z!By0~vxl*97]gQ),O]Y?Qhh<I;I=WFmAd>].
<GxEuK)_rS(Z2g6rFCB:f:2+mlVz=De@Yw^QYxRfI@rwM*e#kiO|YzLc_(lqs*O^^l(zz4ldX6weJiT^&Mmh;A@y0lDI<|Rm(69i#oD*y*m(
tKo<c=&~wp,usQ8P&S4FWzlf1n$a#eot9I3CC_PI9w(rMuNg(NxLFAl<MVA]tjS6u+M<9[zG;QW++[A3QjE:pZwev3rYUX*]H&Iok;OT|zRK
x?eKeb$.8|vDF.TJI<VtP|1,^#mxX9D$4uijqZK;tV[a5PxvPL~![|Xy=aRd&ZvuWCI~9X|rw:.K9M,TfPOYCjI(~C1U>Wd>vY4OjVm,X]7h
0k+Tt^k.*fUEY<=_:wuc=kBMedL+0j|z:y!H0=^s?b8L)aO&Oy[$(bt(]!#<tQn]#U@fCUxdViHS<39Gfety=+lfC7V%!K?4L,1UDG:MO~;k
yv1>N33v@hUf4=u@@ev;+r)oX1os)HCJVQ@Wxd~e4wFVu3o7?C)?|yxu48],OL925JIV98K<ChD[#8a*T.d=:tS#~_tIW*3bXyfCsB4qr&1g
AH@Bcy[Ro#b5hc4b4#Teep$Ui#IB>F<X!)^&q=^kb0=7U+:m|su[s5joR&m,[YD7TOOzQtH=)efH+fOj_BiXgyR^oJtZQtwq6lA$o@Ldr8I;
_j)0aN!M#b)Qf<L0qFcm.Bx|n=x]8VKBtB#rty&;o?eR)YJe16U5_&&x([&ym.YT+LQEB[u@otnJiXVzN)qW.dZ*Ep0]P1CV;py5>D|2cVQR
q*WJJm_<u&Vg7Nqgdl(*>%KrK|,g#!wm9q^yMYhrCB*WH<j&bi=B.]k3,xSwX[~TieSmB_DtY~SQ:,[nO3we2!0<8EVX2]0PUqHbsQjV0R,k
fP6zDD9Sk52)03.fK5uM)#FSzmZ]Ye|<9tf_%;12~SrrR<%U:$QHVY)3nBu|+UBsHdTC7&@Szi*zGva,_7maCsGjT6;YaXMTSHJGg$5[Qah(
(JX*0p(02VR6oGq_tdba?4szIObL;yssm:4UQkBk*RZlk~lPaEFoJ#_H+CLz6>Y@8i%2=K3,cs>yRG|.8ZK%]AIvQuELcFZio$bcCy|&?x#Q
Ip:l4g7VufOJ4xF#oPj3ylo24,s1+q3p7|6(gASV1;vG?rfWy+(TeY<4&!wwCGzT^ThO+OM6O0#6ZB(r~ZHU8Rs3>6kam3VtnuRXoh@jOb[*
j;|%kW2_ZeT;ulQmh:l0<|aa%)J!=s]:WlOx=<Ewt&>|i@Z13r5lUPMAsW|=7.Nl@r7k$6%e2IUKcrznYICZY$|eOOU?X#2g+z[ol,CEdElo
[o1n8oo*<<8M7ens_?l1OXZ?@Ka#^_h#.=>7TELj%4Ka>7zaj0Ps2v#d?aB+T<mbGaWyscm?KstCEUGM@^Sm^1U|k7E1_yD#Y^)b]<)k.#rR
j<awMgu6[whrag]THKUli7sXN*Zgz3J<N*<>Vo*WhMBSUnL$5:lOMW+)l9OQHl<ssS.QuXa@Ep9*0l%@(qosV<.h&<FR[cH4vPp%jQGRC[t^
Pr[P89N77AlgF%y2U+)SKURSV~5h5Brjkf2IDsvVjK#!uv(XjHQ0It~kLoU|~4T!k>=T=3=QCMeg4>uXuexx>>*(p2<g.pY)7Bg.MFTht]|m
Vt(UqyCUYsWo[J0jx~x%SPi$NC3Vf1C0Ny_dUTDRZ8#9wJNetQP;%^@A*T_8,5Ahg3%eCVyfBhynw81r]:5r~:n$*:gIc|$$cQrNO]O#O%t~
o?&eNaG<%iPTV19J**XkZg[Z#~#YUPigdD#lvafnZ@Shy2q@X$uzVe_.u^DhUtt4dmSoe<Cei@Q_<zfqk#oUqf&gCEVGi(,k9bsAae;7l$#r
V.a,MYIv2F=JPbm<dQ9)SPlLA_c@E4ZoHG*v9!F[mzXe)6dcu[K=Oo.ld_+;!:bKOh3eTvlFX4T8&R#SrJ|qol7@Vg~KW5+M8o<SD[jo=WNr
<1AeDZ4FZ|>4!F&1t5gDkUZiRr!&;%q4%&*p!tr!&CLT|vKnqaBTNgc.xTj[rf2(W;r*e$u~SyTl!s=8EGQ2Ekw;WUU2d6<kHhreY]Tbk*TW
%X*kVz!Um5i1p7L1GD.^Vd^7.25~#tE^v$!Eq<F(YkZrokt^E.XiOJsY8jg>32gLZIRMLxqSQH>ppHM_XAH*Et]rkp@~uG,.|U,ix$)^M.^O
vB:=NvT|e1GCaS=vp_?_>DLlM=<;bXcv|jE@+iUs4I9J@hAl%?hI8kmI!b*e.3g%BC4CqUm.n[Vbv)#l=_YKAilDoOeTs_9cn@@j0HtiU1K5
d@r54pC]+gR73M!,)LgSW#^LrE?05fvN8grTc$@]mDA1Qup~D6+<<Tsfmc&W6S&|,K$h=zObd&?e:Mtq80sXxhyZI4KZ26[;QlCuCWaMX?GI
xC>wGWI(_~:8azSB%+|2(yC8|*L~HJ$;Jgj8X52V2l9W3hh^BF^]N4Qryvw.y~)e[]Tq0Jb<69@:BI3?%gB?^3mv_!#5#&,6p!Or=K$cJz%6
6Ho:mXJ8Ym|)P&F[,][w+(oBY_I^;,C2?iYp6vL%P4J(>NcQ14YB>cAxl=&J!o~S+A8ytW[0g_f;Z~y5=7KN6(8d+FIqzd.^u&6>bEu62xk5
uZlvJSES#@2X<4:%s3Alb>qBl,THOg!uIGxn(kMO*BYiG<|F2jvwTGw!lVE_tFI1LNqg@Zx|YM*MBXwVJ!<.>+bzwF+WuYs&3*hDpmz]:)YE
Rn>=b=t#m>W$3MZqM>W>Zo~[|LDEK)Y)bxCwg~fI#x,M$S.%.hur#Hz[GhmprfpFIJi_N#k.&qhC&whCsN2[ZDDr@KMl<dS<$Bx6<+hKZ*7E
W<p[t<r5p^o+WTA@MY0JKFV&?25x.^Grifmf*SrAD(K8=9sWUHm(=]WS+V_L*7O!3l.p6j<y5HxIaGs^)aS$E,vP)hLb<Rg|kUc0O^#MU4xJ
bDuF4.TkkG3e*BzMMQtb>t.,axXb#f^&)rTH[NJcqfAIvA]_KM+5.t[apk|LCg4J$bZeSdMBB+cC+]!9A*_0dMuYPGM0_&@vX%CQkM9fGpbh
&u3zdb&DV;jd1[L07dlt]h<t#e.*lp!nNr6aXl:jmAnb6S_uJUPd$)+Mvs@N%Jqhslf<;3)>V$RS$MUPjC_#In&kLg5*82hq4WMPU!^iqr7F
,IDA,@==K~Hd*1f2qcb>24fcoE=zEMYcrp.bx3F7mcn=94KZ6WLKqJCI,W$PqBUrc_0]nf8aaYWE=M2!BX!3~otl+AcPKpfm~#Q_gBE@d5V*
nMHm8KG:d59r]g8wDN|pn|QTiXV7SC~KzAyMAxZH(W1A4|eAA8^,bROA*LG*4HRAHF=5v6|CqR@(b(v%xy<OgI]Vdnrr9b,]&~WIpjrtF?O2
8W%[NpuR=iQ4IL#AA*hGIUQBo5(0y5lPpoC#:5XiWDm]FH69^V?S)IT^;qF$pK?3PiB4my.<>xu+MxQl=&=8hLFKyS!Y&BCnP!>s=x3=cHiS
sZxhwFO[)#4XQCCNa(#fO<Nw[hlm%faVqkRt6m5PM)VG3@y0,:;k*5e9zHuZY9<?~Q)#^mJH;hDZ*sFvV[&gDsUl7h>WiFl3+XX#ft#V)Tin
2oTB]n*fxZJ^4*LG^]KI9|xM3:wU.v3#:S$Wv.%>FB.!oKjc9[@LFL8I_Unyz#,9oQl)Pm]S323E)z8md;IJN^7un()jNtE;k^l?8Nsi>mvm
tcZ2;&Fg:Lx:,Z8+9AtMbTt<se&ruq9tMk7T2qWE+Aiq_~;7t)5]qv2(ph_y$jIq4ijn:9H>i(T_e~7YIwY~]xBp.+6udT<XuRdvVd5nCRaM
O_z)evzzb.mXK@*z4#9TTZ:DReWz9KLGwC?:^sI&2y~8nNjIr#[7NxJP;Q#tjcu<+;rkrH|Qin;9L0B?R?,E(wNMG)QJz!Yz3Up.^JO.^H2Q
qhnAp8Ja>YraJYs|1%>|WUe?EWY9Kr7M8EbU^vkFE;,rm#4[6>lmhoVHRx3r$V$C$:vqNwYcGy*dHoP5[H4pRJ+@]q1He0I4WHrNCe@V_?c:
.sN7,D].~qSnPzhu|G4TCK+Vz#PwHIR2]S;Egbl%,qD[]B.r:iAC~Uoz,.2)sWJDpQ;qasS##G;7G~ijU*K;0?mm:4sWdbfQh+.kfCIRRg91
dB[z(pQXXhpF1oncBpP;+7jZ7a#e~?TKyJnlq.;@|C1GaWz,e&_R_^&eM;La%cxrptN:YpC_U3c%e4rby#jEpVXhvMdTT5Rf|~8+JmML)c]~
+to5~|$XD%IZ7m)Kpf94FjIG6+l>pbNAa247PLnb*XOMpQl_EtrJ.HWfi3RHQ8g&&>PDb[0$68#G+,J9RBiOdJ8iI>sJMG$>M|zCMI#,m;9(
ux4Q$@qm2_hfG9Ew>&5r.X1r(+cBq_v(#r|S[Y4N.7X+s1r~<&o;o!Lrb(GDm8RB#=t[QZ6<UtG(;D*x9q@Hye_h^FhL>|0Egde+m5*yLDkN
of69*~usEXGzqHuJkdnc)MG&%HC<mRF&#P?yyJ!;_K?zyvskm2FEvG?_*NaZfVD,:%ZI.vG[h2m|=lX);%JhKREJuNQ>dcb.AGw=&Abe~]uF
twh*B60:Cs6pRW)f:|yXT#psW:gErmfljm*u7W^KGUCWlvET5HWqstD0#pRbG@R!&QHWmL=Tz,yh~H9E=&QJ#=Qr6lbvtU.anVWfjY;wZVrp
SDTm@2GZ]Gk1s|JvT%h94679%bE_.H0jq$2T_gSAw^^V<&5^0$nP6U]!6Yc|[l]Z:o*][z:!KQw6Cm^r8zR9:1=LHc*HSGH;k;azb0F7@5L<
?Wne2yYh;n8ZHW5Y6]?~]UzHHPe+fd_CqLgQpB]m3zOBekWEeKfm5.by|PIJOlk718E29bEfsDZ)W*|LXX&~*ZK67MPT%zMZ?j)V)cuE!Cdh
PwMf_3Y&~6~4;cfw?sWWtCOy>KYbO(#L5hrNknB<4(ttlW:,FLD6xIxrJ,)GUmf6q%_Xc@Bs9]@xXr.Zy0&aFHihO]vJ))Q5|!nDx]s;7tf&
o,!x+V7ohu5+%STIMVX^:ElGQ*rw9@L_*5G?pb76NSPN[Z2]=jfIMTJJtxk04tj#RWPbyHPKp|O[GkUDoJizwLnPBmMvE7(ii(wNOj)%ya($
[ri+tx%T4+d[d!976OZB2F;r|YpA3wM@+62*g5^br23isOz4=o8MXGEPwG>FnhM)|OVYX$Fiyc(s#7%o.]Y#~_Bv>&C|f.De.34krJ+s!u$x
]k)7E#gF:]3TV5gends<|#)MV<>v36EDfRjGm[|P&2=u!T@W2AzXTG9FBu%ahii9cj+Etra1WPfa(0lXHZ2$gmIFLiM#]:Nq4C.l#ArODHCq
RwpTc*PMu3aS<a6N24@HK;&nWN_m>THAO,vbFg6Iuej)$e.BM!5Vc:khz5mw,IQ<PZ2Jiqf]_G,k(xCnWx&2l>XN4+]ipKVKFszUjhs8,fxj
UR=?Ki(2nA=&TN|@98|?|oNsriC%QtCBO9i[AuruAdP@9oY%HxJL8M=+U]nUpP,_F[SrAzMB6$3!1OHm71Y0:%iEeNYq&;25Qar|j[(H[Hbp
pHzKQbDH>Aiea4c,CCMTR|8BvY&E9J0WC[0K!8r2|rm^KNQ]et%:u^dHYccw<^,~v.lxVmzk@A)7uq3=mm@|F7V*?AGsSyzk:hX+Sw*w!]C.
,_|tlAGbG)sx(!UFFo$l(Pa)=:w,HDr,S?%&^YdVFvSpvKb>rK=Ptb)|~s<qc!S>s2k7h*jj3)IV05EO^f2ju&?<64SMSZCr>vX$GZYLl,Jg
TK(1.6hY#xr%kJ|pGAT=I0ST0c[rj9JLHb+n]ECBpv?RT5)Wt(.!7y6yPYIbkL.k=Hy#(hET,hUGsI#b!W_]>CJ:L[XfoM2lJCcjN[_tX%z.
C3ZvcY!H|Uj2rv^aM:5_e;a_?dXs1kpi2n2r&z3Ca|S*0KZh?ed:J?7O7$#d%0A#=6>sA%%+3Jin6,ZRVTE@g^(f@ITUMs#i3F3,rnJJdh49
|4KmL+>:Ab3p;>af<;>OolfU0mqnM)20BHe2%wl3d9[,2cHU>T_2Ei0d<#4?NF0m>q?0:?tJVjYF?O_z^IXiXKZ|2b[[rGtULTPT?8YYO<~W
?eLiVP%abkL_zPeHsN<m%~DYL.=nZNzkzKsv]0hPnkoNh7zaKMp7.L:]v+:7&ptE.Vl,v71<TW7MXbV?]G%spft(!uomzLXJ|QPz#hz.RL8d
(YeXBYP~!77XF;W8g6bZfnt>HVOH[CP|i<keSv@f,5E]TgB6E~BoTXCr4v;I(_8I^TESf~#?yq|*KZT&nrA.lf?d;.G!5bqb_+QR@D>+#V$i
MgR[H8wQKx28CNZdy8$T5hgQFm7F]v,h5lO@TcD#@UZx:)?,[<l8a_s$+3MBI$eO11nSl:Za6@Q.DTx,MZ0<KzL;fWsdCK&suOJA$jusf=RF
V_7mq:An_hH%n$UiV9JyFu@=TR1w]vsqR$|:6ErdH*8WOh:HeT^!r#p56p|!eWO+S^$BqqR;,*ql@;rPX:vw1mO.zle+_k4o[19X@HoL&T;^
wl:>8;!3=akBD*HF_cqbBR1<z:K9jJ;]x6+IUhLZA:x>sMRSu>XN#&z#c$saq*l5A1n+wq$yxCK(oj18@Vke:4TK^Z@4hKz|TybGBFW3Bu?b
8#+g>Zgxk7X)3C^)F3Gwi.N<eL@Iqr%71Mhv]Gy2(]PrS8$&Q<rsjq|6~VR=5>mSQ,ep7&!0W(>$L_<O.#(g:RbLg!,b4VF~GmX#PMO|#%l$
Ju#;*2;]tDq^n1Gp:3D~V6Z.~J6]o*;;tJc3pBLrG1W2en;0.!dwwgI319=jWkN+l%nyk8kKUnl]0c.#fi*&UuqcyM0KW15KCV%=7grM_5vm
LtZZHa0T!d:<of09=krWv+YKNbsQ6kr00hkpets!IyLFvG*=RVnko+1$w)K1&I!D5WHC.T6jDh[,R1Qszp?CsZi[#WKZT~POrk5$uIkhX6zX
C$O)CGt%b8IFOZP~gAyU|G@]40SZt;N^2kQnj*aUhoz;bGLgQku>yW?@^uczIJi9i?ix,*C6~;C.I.H1x.PDzDNl5:By[tD<#77wJSoQ*KnI
EUNdHE_2XW+rqsX^jJ%G0K~@uZng1>971&R0j7tZlF+!h@9Rw8y~mZ3l9~)Vd!56(_7]8q&pS>o~]:k=@l2K^f1c@@#3*~kte8RT?1Hlv7)r
AZ.o[f[8._ue7nC#sF[5EHneXGtfJ,4R.~(M^729?x]V%+ul;E(3F!)SM+6NTH)RuSd5)TpbN:$i.TQR1aZQfA,.~)]VCW_^jJ^EKAsZ?H!Q
ZjQoU?rnAZyGQD0X]bMBuy^62s#+&5~3uUWs(b&8Fr@RPF^[@sFtkJ4GpFIECq|8:vdV@mCtucI[UjbUQMGlbrO?EOe(Oqh^.y$4BA]Aslp]
M8?x9)^Jk!<SOG97XSO$Z3Jd%3p)nfoep;1$?IPr+.j)@4]7(YC_TOBoj~BAT)1!JJ30dWY%,0IzS?gpwWTi_w[hyS:gb@k8%H6rc4zZFCTc
Y$+&_P+aFC0b%WHVq[nA9?6F1+3pc^Zl6vD|=VHv3tN:4V$8$w*s8[0_eRkS!pa$.na,rEZnZvP9G5],q1s22RG>Fjh3egT#f<P&dBeleOhS
rE7a(t5YA.R8$YmLR%QZdZPNN+,!4v8o9PK:5jzdjQY:3cvN#:#J0nlx$ADHpXfkjN=(9sx.v_M(VAV]kGFz=)K=x4fx2sHWW;sYs9~cF)S,
v7KP=h(xy_~KS::g8PVFTgMU54>oiS*:?Cz|5uJ&)m?v+DG&f4p1e5FKZD96k.v7rD187eQe~%zF8#elFHJkZ?z*9FE0vdtV6u&o&IG:=ei<
CyRl8R+Bfg_#kb%ZK~SD^*c?Frv6I5KJ&,VT.$4YnFG)dC[;E%7w3r23xLss$!7xA&zn:9iSm#RHG%4@QM:*)$v:|.!mUoXE^fR2x~!Et!f_
[szeu;PjX@NQ~yPl0F3yyEG$SWCo96FqiPpPX%zm_E0R>Xv@Ow0H04uQv)!XKjyphs=!.?_9v;@Wpk|+nV:c~@Nee(D?*$yiFL;>MAmfK#&k
GjTkzJ&JG?uhEV?o?79HHS8q#*H^^8_B_x]%XZ6jQ|_*?S)aYqT!Ar?<p|YuHE5l>0@R$^tM+7hyzYeu>Y*s;Idf.@.yNImfUV;,w)>p%284
iE*X~ctcdz(&ba7g.qx3#7XvLq5v.&vtQ#xV2!Aw=[&5#;1i|#~]KVJ?](|LYWst)a#!![h(g%bGL$HVmI8u6@zj#P;6L:;RuVHHiT+Q4AQS
bHVKSHwICZXvZ9ms2m)kpEZ*#L|^|C+T=C_gwq^Cp0L2)&:|EqZVt9[6QLGR]DFIDf@nhn<d5w:qlaR5T@P|40Z%tY_#,$8_*P7YfYKTOcP4
+fLG.M$u.lIK3)M!A?Z;6QC=w0X:Q*Xv$Qkc~!F|9fmkUTe:raZ;TSC#.bTvVkp*!PElk.+y]m(#fstI((kaE1%t@=ffHv|[sYKrJj=]=[HZ
PN@@_p_,TJdD=V&xyp<WrtvPW6$EIhIxk#9Bp5+[wa4Bq@._#0#B>S0A*zUdeXZF!W<mWJH#G1c<hxK9<=.t&hzOZ(BorfVOZVk4!EoxqqAS
4[UI77h|MBYgC)ea1ATd|B|01XrOkv@Z62aBnkXrzWsxvO$p;.%#TPgcxY|Xb)J6Pbn@[k.Zdu^nf#g@izUK]wtli,>Ev4Nx|xdZ,G7q;J,]
%5ZH(rHd;9R^p,+Vx.HuOtvyU0$5b^]bc5MX&_iTG~Ixc)rE55qY]V!+*8nJ&J;l;Ywt*ktk~?k|3dYLNFea7#9ea.cAKz%qdk7Y!t2Ov@re
qbg!U&9^A+ull|uWzqftc~h9QYahai0zYx.QwsgZ@@WW*|j&#<uOgyhSa?bsy#w95PBvdsY67ygy^t^])E&tA%HYZ5abCxJ:9UEjcW!G8^b5
BG)S<t,0A^~i83sW)1vY*feHfseV;.kY(I@[Gtk_p3[TTkCiBNIpvU%Nzgl%?|G2)LrsROq)GNBxid$Pef,FrqNCvmie[CfL[qvAA~vtZQi$
zVvWs3MrQ&K*u1U0<[Okzl4fA1Wg1>g_|1U&[t<X!pDIj@WnQYom?Ts_=*=5R:6;~4^724ECaW.7kbRDyIu!,WBbtiGgMI~gf1VuA$6lffXi
jeMx8mGY^OqraNf^^EUo#<SAd0;3>=XNsX!f1Q?cuU7jq~UT8:bnwdC(%_;k,Z;Sd2^Iw7(b5Z&HY,_v*&erKqe?VZy0HDPj0$k<ac3o%2jm
O].eH!09Mzs=xtOUU*:oDn,@Rdk8BRgOx05*_e:b.FyNK0>KsX~^<@1^LVdr&f_a07e;^yL.G%4u1#Pw$F,>u^%nnPC(k^l5C).v[ZxCQ0Pc
I[:0|ZTVy6,Wvv_.mJPUVmKxmS|Yn:Kg,2H]<[Q)Lg5NdVM.THwxPbwQH2uNPpN*=;HeIl>iC:X<qX_x7p1SCv_065s%d&V_:NLF@xb|_KLA
Q$EuMe3W_VqONYf>Nn:$WIRi*utZ7dm~M%]uFX=l$gm[mu@YCX&l[+vVmiJ<>PF!xRRmdO|=LfM;nB!:6KPl4G[p8|#sce:t++)hL63lGBar
]zXuR]>aS<+437Z7@ABn+G:ucUj?%N]F|G_A@!+wj>#QW3ohK!~hFan7pg1lxIXuajZ;*cAR#Np0,k@?j&yU[[t$B:OJ70=@k@tBge9[_=#!
=gWtgv0Pu+xQ#Rsm]?jyz9?jSjI+~uBG$^DgTa;]rvx!.3oWKMlr(uh|er__>s3Y$x0LB@u4e~Rk!PcB%L~QYB@3.P$z$wdgIOu7A:T+q@|z
zc20Ai0vYCycLVv+5Qn<iBwYwiOxS9$Zj@Vs(ss9o$4e3XM]Ym*C_q|<h9uMa?sexgmP3!X1p3#T)8;&FR5,:$1aqR:N,WlhpiIm*%__rbip
C(Y*OcAjtFE1bfo7113cV<^A~s?Wu(0s&kysonKPn~$?5Zm)($=>]ckP$~N>0H!Q1N3;zoWl20z:#DiZ<+2c<vOr5Mh!M+f~C*5_&q#l.top
+Q|5ehxU@NXEbQ)Nrvm?M6=>Vy?kA._JFKOPy3nAIyo<VH4z#:4E>X*?<UlGe^hjET*he*l[2lNoyVZ9npc5A+]UAZJJc>nkAle,a)JU&YCP
2q>J&9)sIOSD6SUTkwD3yLIuH[tybr.#4WoWBHGS]]YZirBX_t>M>lxSedZqHB[u.lz3xWF+s_g<Nv[;i;y6xIj($bDy*]H~K=oHprG~WqMj
tQUxD1]~>#EMKJdMR=q+.d*e[+g?Vh4:rH,fVQe?IJOu@xu8QE1*ezFB@PPrWQ6g(cvy^t^v=uEcB=QdG56MugMZe#uG;d~pg(&Gv8dvt+P)
[fW2GY4J5J*3M#%xP^Y*QNU7&K?wv5#!LAtw7B7xo0SQ68XCD]rjZsX,AM(<8CjR%sjBUBoL!xHlM~h>VD!077E#Fk(X(gIeXe#YW(qg(Z%+
3H.)AX,B=S=Gy1)OFQ$2^#([D?QaWP;m?0Xo@uRAGqr#cK*#pzx_[_mR$zH:IbBuqTK1GE~GZYqVe<48DY_9+C=i3I7q#)9O8P4Fikb7%!4&
mo]UYAjd6><CmQ!b%AeZx[HkyYy3Y9P=O)@jK_YUVaK]v$%xj4P8VY*D~^[J#yfU:&0CC[i:e:_v1?rl>BF12Wm9b:SJ!N08I,^_mUqcC81i
IoS29KqwmbL+h5FkD9N<f1pdkOY,_;hE9*&uQl;9fw;8;sG?0]UYSlT_~KE4tT^mnA7!zI)73]N!BHD3cPBOW=a%=zv,v7]Tap.2fayo1&aW
XSh;pwq3jj&Qx?BT[YddCspz6@?7J,Jcaa9w$Z:e_Li8tF5$m*!I;X,w3.DQ^,vJErblzdJIR?aE3a5;F^k+BSLKn(lmrO4nvnh8KDIAqL_.
$@b[>*U)]&9CeP9gi?uavL(0W,Vw_nBv48n:$eV+Plh~KDTsv(z@zKPU&$8JkRi_gJ!C?J)>#.kg0@Wd@061=J8c^r0^KO(H#RdoD~6oM9$D
nMKZ8mV6p]aM[^<;U>30LD?D_PeL&*=@Sbb4P@96@:]0=M.Ta%X_J2FX+|3PKT[O;ht5*GEh:uYnUN$K2ei+ckm6E.md.aHC[2Wg4f%znp[i
q@xYrzTTK%gKquEgz*Ks^oDNaz*e1L~G)?D~$[[qRd:Q*:MQ!.*&t#d=edKT84Bj)I,@yJ~z:&Kl#%B)Ud[%3^BTUgcX(NwC$.%<O|1q!V+P
3X>%S%<JJVfeh^5!7@7JMB[ZSUhH8t)#vb=mOYjC^+L~eXX_ZsK;Fq$^mPwvv$2p@*G+A7?fsrNJf^cM!5,gybxKLBus2r~2ZEbBNqrxa9mt
<LAt+#+g=1CP+ATm.iP[&**!g>!bEY$rl&pHt4xjIU<60SEUacI*M(@t@!t^$e;hnXTL[iKq0#>JpL5ze7MVfb>cI(E&6!)an%Q,$j*?mFGT
;5<_?xeqSF;&!WF_JHmDv_7yeML~Zp@C?A&tyi%4$VkAg34#TTzi)5brIdoWs7GI:gDu!|C4%G3?rD[K~.drl?$b#*Pm_AAx|98NmNDzEqgX
q)IAX5#.H5cC$S!I4*]kM2S@Vt3[!K&;$T]>&9,ru^4=rPd|3wRUPayw(O<b(xYsjJ]asE]QUGjXBXbIl4DyU=Q2S?H970b&^@Vmed9C]:+Y
7femns=JeDT#VSj!kJtET0UdYb,=H?IL?p^thquwRxC8IxT)QN+B)s9+@rhpOqWLeL#o^t6fS8Q)[cp.A%2_@vtMx6U)$W^qCS*i7tU0Ky!o
8Fluo<9|ijWn9qVxAfg=YmfyDPGvQ82?,w86vn0R8Qw46Wwk#;9Mg(YR>D.>C;eYbQ&(lqLI[cTwTbuf#_8s83|]M[(dStBvB;p%*P[O&rhy
cwH?t1NF84(J^A3I:.F[NM05VLw:T0COAcRqcA(&Z8C+jWJ+J+o&Aun+0w9|*;@qUG<W]taC@xYH%6jS_2D5jQ:ownC)~=W]61eyOJ<>VmEO
rDx^F3Vf1R6=$*Vf4x(*#3Q^;!$5>NtLkB8HmN~Y,fxd8<9DPF44?e0_m!0s;Vo1o?5BUvyMMmd<ZqIFO)4K4If@Y4fbg12?oYcQk0Y6HuTN
PJstu&|#agi[Od2~>vLQ,!0j8uB(WFTN[R%BHi)=Jg1IJO#x]E1f5swyr_&a^%g)2W:]P%luEiWNQ9+<@_kgN?@h>zsfy^by)3%.PgUU*W2N
x.M;Fyj(,J0ltJ+Kc.3t5^y(paX3Z0LG$w>dNAJ?I8y7;wMWc,pK!;C016oyw5!iGVDsMSfqd1!|IgS3v|&qfG(k4,Lw>gDz!a_Cx^F)+K94
.32DDjJb1GG;)j;jRPEpmNb?xg=:A_=_^KZV_R=0pR=h)^eVG]:fwelx|8|e,Oc.Vu#]u3@wHjWb|_AI_UZSW:rUcNA_Ya~%x6Re4T@C_;ej
bwqhkHaXmk5qz#Oi6A|ELbI$7g4s:0m*(mFv^Q045vwY.W=ejoJ]R;k(SEduwf^),K]+yj)V,HmEwN5A:q;a^%<c]oWFMn*Stp1+PAjWB0@.
Q=luj|q1E*4y(?f8FC~.L+&7Ys?I4Q>.fx#rHhV>pvmp0rN35?)qm>$bZg@vNMBoBL$[UA2:UWXCvI03sSdWecaUCbb=c6S33yeO$7Q?u:1;
95u:dB[jn8!r3+]=CuT;E.tj*L]e0wb1bKc[vh94Ij@Iv%40dF8]LM@QZEgqi|VM(bGrMyS.hw+9Bsy(!k*hqZJ|<Fi[HM$M2pbuUO(1%@P7
Y:ksQiHU*(E~TSJn_~r?x&wanM0cRfZdg>s%XtPJWm@naLZ)lSNem%~;X~bWU4Irs11vnO#v.BST(=r]gIH%gWi?^ZV9@5PfYiH1?RiFo~c<
RTztNNX?g?q,<g:PXxo9g2<Q+9hWcp%@2$|L5ARM8JG>&D1Em8!Q$C=%8Xq)ZGBTDbeh9i25YI>qi=UJ6SeVy3Vt%#pj1hY;Zi9Xpi^JpMRS
|Ke*5>nB5>kCHIUmj9cl+;JfBf[aOrrwmMqmc4,_~DWpD**z~08%dsUe.d15wN6nj6EfaJ8sVo4,&Ts)^x8]gecqFpAv~P6h|1L|ma#FtY+w
=%h!FfFKGA$:lZ)YE8+bJ6X!<q%@9dZNn2w>JxCvEgEA3E2r<,U=RSL5Mu$JB2Zr!pT&eyYmSP*@l[%mQ~1O,1yp8:%^I)l.Q&@ZNKR^jf+]
P:%D+OhE8[m!QdT2D%Sg!ui+LTA9b.Bv[R.ZUKjYc(!uv[obm!|W*!*C~43N:1.DI=b4%dh<5M4d0=d^(*P!q5<HPPlDZ*=k?%l95LZ|[H<t
&eaEkUW%g;D>g:^J3i4Y4Fuhz7gF>KB0:L]WXZzq%?,z5L[6^OsgS)uQLbBDft7Fx8F]$wY1J1>a1V:PmQx,NPPT9NA|?cqQ?GaE|;)&gQ?$
&BHvZ^KrO3R6=.8=z.$Zgb|Z+#]qsvHdA#McDWwRTD^JW|Q0lSLe.7E#oVk5%+ry]e0q?VxH)zg#LUx6UhkOo[bR4tUQEy<=g!K>c1t3%B~u
f<7XDcKuKxEytGl&j2T7mXeCbHZqLEL?gdFbEk#nd@CCn#@8@^&9rt!BDwC,Pt|dU<Akh^rjFXqAK<k|!Lbl,5=;B>X|ddh2>k?U,SQ>A5_5
FUW1EHhie7U0HsLGw2.;bR)tHn*)S5E5o0n1o:o&+i9iA$B>YrfI,=wi&|HYEppbNZ;MpE8W>2;dv~l|JpCXaqK!qV$>,NFbAM>BnMcjG8f!
]H0TeeYvptV)R;Dq>)D0*l<5J(+KhaqNO)l&zfusUsP~$?183)f7fY2avJ>rRrAHC|m%%Wl@UiW&7grHVg_la5y.u;yqjEK!Ol=*#)rB]1Xt
Smh6*+vBi%;r&m$,)T>Gtt5BvGj?Lz$npNWJB|SN$?LQpn1+,V5>TVa|1M;Ot3v,L,^K3,=!0|E|LjB6|0g#Mr2tAgOQ,I;_W?d;sjIn$tWh
4g1VdvrGW9x$gsQOE9qA6~f27c=I%d^kOwhnDU39wFOwFwK3Kspjxjb3i9F[7:Q?cZ:l._S]V2CB1PvaYD5!l$JtuL+k[Qs1f?lM2n#_1V;c
<a<VSv+e?a.Y5sDay<08kaOK]$Vp=P<pc!x41O%W@&fIYwx7uV=yLDHgz!&Y:=D|?Z55MVcS5L1*V1lf@PQY:05Lu?4#5WvKR;_>ktTC)CA;
#vy#Uw:a>t,I6Y[0OQnTAmI4sjSFW:M21fpTB[l6Z;1s:#d(;dbn:O)9By3(wJ_W709s[d|xxHM3sGUj1I4vtzFK!Hsj%D1J;l:HJIECc^_r
;FxiDK(0%<B&>2EB+O!8ShN6p8dfr*FZoZQRY5PQ?hF;4HRumt!bn9Rm.14SFARs;HyShF@OPXJoU!JR(u^Z0K^#tA|1_,=ALfnX4xZ_kwL3
0MV99[xa@c9Fv+=|DS5(Sb?M;jp5#Y[zj)_I:#x]Km_jHPLP%bv)FUrVo%I0I:vO]xFZx.rUCcm=FWovV=bkemM42kIvEWalalrH4bj@79o7
qTYxW)QJS&vzqa[Ks?.*1x*]|8cGV1t.k@h|0jf^vR+Sp*zdc8NAn)!?S4gkz~,YWCsl[^pS$HT8]cSipNc*JBTdqNzLi0AoSyMFiF%;]4FJ
^*axqGWVlD7@n!^mS|G;V<+CgP=R1UweO|F23mM5>N5t@(FdPiATJZ@qI&TT:ToE?q.dR$7?~0Q$MMk^MNd>v2&NscS[.WqGR~_a1^E2W1TY
H?Y;8(b<MnUv<YcCYzgtG<JJ!S=6V:nn16TMuq^ZOI2Q:DU2Q7SNm95btZhSJA0$|oaa(6*QMX@8*A@CcQUn2^mS%q%az(Xi<^[R$>F2(lP3
LT$S^WZ@0B^aR%*J^B06,##tnL>Q[Ac>~sVvg]1Yf98Pl#L8|UT4yqpP^(dAy9_$+C9$Oiqwj0azsIHmJF3zID.iz*#)b;%<[G<7>Td6g,I5
H(Q@maO*I<jp.sI)vL*Y#m]QB~ZNI5)=AUvjg;.67fKW]1cOb30jPLbAT]]+??rxzY8n&^:kcjuxMa%@9bKIxoXUa2dzM6I#pSXFb3)>R*z&
dUU5s^iCK8kuJp+eJZ9:ZFbUD+tW<|aw!uPU1&DzO.2U#!*SPk7~*rxmOBv7u9w)W<dVlU$~.il2_JRO=)%rT,qpoJ>B*Z!cLD5if]T;&RWK
@yB?L2^h;AIE*tQPNBLKsD?5f[ux(E)b,d)dhKL:E~[>OF&hx6Ha9XoyEqwIu@0mk>qT,1?16=.DM!K1l5KhwVQ5,ORK6GEnwISVJ+%&wN9L
881^T0T#]e72^&(;]3wU4|6VWT~Rl:s>EqGvEaURg0T1GI*01)Tg2g4&~stIAH|6M=EB~.Zh1a~?kZCR#$aV(*5.~]Awit2nLh74ij95H2SO
@@[fT%2+#2%@!J4a))Xw%8B+Z0F_0zmq&>kU_)@ydSL!a=U=$:0YQ$lpe]Lk:*5Ua,N#7~IjxvIIwLNn,v_k8DRky;0O8ih1#z2,ojAgWGTN
qwqSknRn_e<p>.U_Gx4L)0m#4q*0ZU>&g~ni18hZ66kNA?AeEsE.6dQi]aCNI5v%51WLW30jCGTKn;0dvzSa_pTm@S_lScUN2W>$Q1g=r@q6
Qy|mi;9uB,oLe&>sldG7mk@Jo!rmaBhmR!7aQGy7uEmoB,G$Qa8ndV;(wz5(khmX#LlJ9Qdh+Laz>^dH1$t$A.P.mNiq;W$>xv%4=Su&Qn=!
Z@g=KUv,6~1td!csa[[pKey#GUlY9r>zY5P7!g<(cdr0$53Uxk_w!hsaAl3ug|_6r[c9AUSG(1].V>2+,FFPF?5zXE.Fhpl9PfkN9D,xt[%%
[.X5~m|wGiy6*8l=$k[p7EdbHdI+$kz@oxzx9b%>iqW>Mlynz|SA<L?vribmFbjmoZ;oLQ!z2F1D#fMNlegFx0;Qu*3vxyBYEoaJ*&@qH)Hr
_.s&ugIPxX7$^PEc;x|:Afe6.Y7nv3a9O+3+_,EuQo@;*$WtU^a4F,Ejwy[oq*H#z~:C+yxg4;IPeO+9_D,#ya.j5msuc?lFV|74p,%so_;9
OPH]00ct!1,lT97b|$44S*!9g>4F0,&R2B6Db6F4Y#zKf2X]B>Cf5U|trQeaV$fj|Nlr7;x?o_#8uc8OrA4?Wz7C0d?8=Ov*vt?w[;v!5*K=
#j]Rj:0m|&,uG!2N.$7il!4kt=oW[s^(jRJ[pn9Txqb&BhB*]ytOH$x@,N]BEz65w$R6GI[L)W3lGq$gSK[~?yWhGO[*)0WF:UR];TaEA]Kg
t,u>z6Wz4UH;eqFbVc<euFv=Iqt#@&9$RsKx_b%k*cqyN4SgcAt5N:*T>,V6zhZ$r+>ckvnBOj$Z^|?XMf4dzp,K1HxsOocVXFG1#=q9*^U~
PGO:1zDtr0d_dA_:J_hWOUT&l^Dce#v[:l4?AhFE:56H?GIGDqh$N~pRs?S4mTLOk^UA(marGi|wsM+t%9l*u&97_6=+jeEs:=86;LK1paYm
2q?d|vLdfuob3*.MQ@yL7qxspz8R]W=nTQXbAB:jQXAwl(N(k7Y.B@AF%Pzg;>Zw8=SyK@nrYZ0]8MaJC&B.bw>1*!@|Fd?A8vB3R[S3@Zy_
(=;*RVKe^Lh15WD<lz8M>O)?,wusHlB%O#BV7,1OCE=fd68i^#hLeB1A^@agUe+E:yV9xb9hm1e]5qvzx>8_,,O;2K*YevzU78_L;5,=(.:d
5_odZB?^mFQ+1@nP,R(P#pTX6r_.jc~hn4>QnG@QqaRYoPMVGl>FdFsvz?Y?XRYQ5HY7Sk|N%Sbn|u48i@NF#z#)84*9FbpcSGw~0&C0&;T^
Vs.JyirrXj^i%EYy@Yd&9LY8O<=yv%U[|QWF7.$P2|AGCz.u9>2vd>NKC&0f3s]AlKB&y7k:~W8ND*Y6r.9lgj(iG5j^7Xsp]f6l:|T6<[A$
+u[+%A^eW%R0$)|jIoV4lIgloCFsl;v4HZJjZR.9=T#RJIIdEAe0t??)f9jY3aM[U(2S:;y5$i+dW@*M.=.,I!9TFa8oQ(C^xIHjWHe<^bTa
q~W=4Utpr1<v7q~f4+I*KF;$KAnIYYjhE^9PKRofT:]LCU12rxzZG>ryZFo|z57I&RxgjOKk]tHTID8ryYk5^2CNAaa!EG??tPD*V2tDoKGG
<y_|M0IrbqGN+8I(*7BF,H=8ob$JvWkzp$E.205R)AT_u83mM*+_RTBwPw$!$A=D)%P_8UOt(_Aq=l&[[1OvnjCDw3TXUwjqIr.BKwq9QX3s
67,)kD,elo:@TMhw#T_^pNUN9CB77*]R+SpC#htUl!PZg_V7ob:%zdvbzw;!bxrfGL]D_L5?Mn.hd,*YjPBI>_mS?EmzIIe2>tp1,uv_C_+,
0t,BMV0R5;xZ:FLO;Axq.yT[L_NnH<eq7ug:sK7PZ@.@4GfIh+R5n%)~TS>!BN;RjMEkJ3~;H7Ft7)La@)xSVY0OkNX1M)|ax%_gUF9Rz@z>
$Xh08%J;h!_cW;[AEW+4obqLc^3mE0m,P%gR=9$%hTa,.3|8n|j:a8w7z.:]&z2(fgTk|Dz&6Jk:LAT5G[S;E1ryyfHw7<y21cd@)+4v;At2
p|bAO0+SBbkvoh0#Shnd(yaWg(nuES;mRg$wOoadZbN&8eRhoOCf2.Q#ml]S5M(g&66SWYxI6M+*|,ufl^(|8esKm?pzwl0s[a3Yly9t>uAj
*Q%V5$w(E3L!k?,jz)Z?fIx%sUmz@%ObN=MXPz_TS~ByL)q0EYrat3ZBsvh;mhL>oC?4pdhaO97q2B1:9<.t(p(FmLk.!GGd*kENl^(Y(sZG
$C)Q3$QQV778?;r|;NVKZ52s.^;I]7h_En@[LMvsP)J3#1J8Nc;NXPN$?5<gb?VLWM#f+q<kKCJs]I%VFyGv_hKh@h4D)k<1=1q~O[0qM.hQ
nqUrWNF#3airO5_u[7$+yAYi7m2rAafpuc1W<.F|$b!zE=AQwRWKq@YRxUddikDy%0dTrDX)IsulU?C3f!1]>rODE;K$SG7O.C;_MKnY$$M_
hR(I^Gv?uX4a&QMy4W>9#zz%K~(DkoMEG|Thj[^CMkYF+,JNW<%(&^S~:FkPQsnr0N9i53VnG<g?k$N(.VnhJ+7h6NWn1GdY2w@aszp^WhFe
NHBzWmuVaMVc,0tsdm|yHp%fFk:ykJ1=kWt0b%>;9IHh)h*Q.l_SOc@v:~gp(g4m*cob+.b;]x;6|xTCaE_Qo?&YPP|B![(z,!db[s]HB22n
Xt~)4pVW(6BR1D4A?h9wv:x:CHxOszQN9854flf<%4h?3~)xVSu^#j[WUgUSJNZ)H9s=0y*,88#:%V~BT9Qf7?6ZQXF)%hnJ=TtwM?+R]fwn
e$9G8xwgCeN!5,.t;^wKazAs)ya]EJDG[(uUC5c~xteTT1K@Vp.R8Y<;J9J2_l)Jj9T9xV=G$MF~KX9+$_@APWNV>U^qymlaKMF)U~f:ZNGc
?d&#w&l;toxo*WE,Z^zPlDew1y7@@+k:pE5zjd(sj>Qq~Jl?_:cGnBxvndeIGZfL+M*WN|<6^ODw*_4ligN6)8u$xAL(4(O3?8dz1ngpPE>4
.4SK0z)pOkh2U)yRj*;[.w1U)!..5~nuDPMDX>xs]qhXox(S(kN_Z,?qRccJxl!I7sR_Sva?(6QRFojOaLRdDwtEIYvPi<6L%g8S[@TDX3Fq
WLB$E9K>tfC!0eT$abU7vwPVGw7rrwxRNO3C|g;rd.Xgfgq*1TUHII;yb2y44#_<)lHof@6fctS],%rLT1B+G_S%11>L;upi2n?wx.yRvCAm
NUm7B)>RvST%S^LC,%h:o.9@6RS=3|sG:^21y~p9foV?*rWrWVw(51yk:l5r?MpES660P>MQPf.IV;NANYKjsKUVbk]udQV5%JjH,xGac^2F
NF5&Hr?q7sV&7$!>7JSqv2STLahneMY[dd]:dVvicvLs%]i5rMjJy*#A~5%ch%jT3ZD(f(4:mL~$KS)B0;DwOM8>8CRVJ%q~7Xt]0@;cX2p]
dJgOQN)wX8^h<JFW.#47(MzNMWd9tN2CJAm!g(l):jg)De,i*0u25$GyG<UPho(mkC^S%,Mk9L]lJe6U6!o(rI933g*!S^]TJi4VOaFs:#p(
UuP<aiLjT1Pegd:(*91@1okVqP*0CROev^Og0gN*z(tqFqY33(04>M_BJx;*HHc3F,@tBI)B~42h>BA21YIu~~]1%Iq**HDuB]@$;jIJFybc
lQMLPjMBW9a.rto=d;y;c9xD3BigwMpcYR_hle~%@4t5nuto582l9=MT~Ey+DUL;yq)fz8)U57sp|i=w]j1MN])M!jmGv*w;#@Rshe_HwqXr
t3Ui@C&KNxg2pg9B%!?!ko];2KRueCEc7.,b|qjMg2*B]w)Mcx.GJp=?fbh4|o2Gaub+&I>LVt^<Z5Iu)IC5%fxG=MfaudRR,Yxv+*$UNp&<
ZVI.k7^_Mq<7os|E:F>45#cy=9viuEv]zHR@LA92*rmc|[g7AVf$gE?5V&3c0b1%2#6GTScSE))Fk)T]M%R>uUTZIY],0Zb(iqVCZ.ua#dZ4
kgc*GbL~$Y_Wc%.7(.t<t|zo&@*3gVx:C#wm;jXf7Z|+KXe_opAh)|FEOMtN06:rR7bE5E]8N2A^~p)>.yb5^k9Yz_J9u(lU4lsuK$X;)wqC
[]SErxXvT;?.XQ?mLMS$K~iD.f3gExTtU?wHcH>iKciM#^2_L._B]z9$4EDyy&qyqAdN+l|]vsB88#l:WM?xJ?WFc8+&)o%1zkOjCdY1WOZU
?h]qF6r%wztVEkk|c7rOH@6P2FKHj=^n&RJbyf;+?(T:1s%D4ks2*v+%H]Vhk!O&|QNI0:K%.6.P2.WY&8y,Ga.JIN?W0$c#0oeMr!*QnR,,
x4y|N[1KhU+U>~da+Hx(u4Mbgyz:F=:Cts!54xaf+#fero(RwKUTaGQCAO.dX]nOy2d!^|[Nq5[S0Yr=s(AhCP!7<NDN;1T0m?D.6l#cFf|w
V&vV=S$N1x.pclrM:jF>[Ba_zPk|8+&P$8I14pQ)_.XT3<$V^AhO]0]U%,QxU#s*QrYPwFG2?Ifi]P_<m1r_w*$Qc)CnHyl,C*=P2^Tn%^s^
:S^15TyvETU.&F**eqJQjv&*CVm!8&lLvr[tI+FD.>k~(P3gSpE>6F*j_]r)w&m~VNYZmR~JH5!lsj9:Z%jq~Ro;v*h?!#0DcA<%<qd?os+W
1&ah^w4JJuf]VQx]fx:?,HL$=;hR*G7?L_!&!D~hklqF4jWhNEpAS.JdUhyEr;qPKki|@~PizlaHMkK~J.&)fmC(4r&HRb9k|W@]>),8t4Z7
z?b1MHw1P^Gy<~Ds+#:c>:[[l>sX~H?HCuk(5,rV7CqJ9=@:*|MAy?fL9Jy+R>F#<1r^ZC#@@Fb:b)(GsP=^rNU7+dpnJ.m&tR+^uIDI<dP.
H2d]~@;lJ,0|m30[P+n1^:;a!Z_vFOV2V!_ddN<*cIeN8R8^^?yVTNMFw[#s)1uAkeKn$rQNmC#&?#&+$Wn>pb|]dAQqQ[eSr=5&PbN*jq>=
Wha)VVhfaJ;|@ng_(.DkgMPH0$?.>%^[U+H<&W>uywm7e^+gJ16$0[X,9.VoGov(Lmsa0uUryJLK%h^(OX+@P4G;wg,txYVU0D6:)<3q8:>b
#49#51<#4$_Do_dE9@<@~(Fq%=Vbks&U?QKeAwH^7L#c[@=*#Psk#(9X5KgRR@4]dF+%Y).=wkC@lg0SEKztmLGT[i^ZdZ51#tt;j1GvP47<
?6!%EIVG3y<RzJejdk.wKAb=XjK0ME^H,7^kjBL[!_m6r$]w^p:H!Ah2^#UppoN8[TLTW_j%h6L1rjiM_Ae2utx%(M[#Cv5+ivoi<#f7d9r2
uw?~SZXA~[sE:eh7Fpdn&c=j_33tT|Qq>u>?o<x<$>7Vo7o~QPLqzvI0$nb=6>eQlzsQuf)rkQ&VFVd>SI359Mw^vx@IFnYNAH#qF(ZWa^2t
$#+Tb]l^K5Y|.we*2;~Ylk>cthu1dURXup2h@ED[z~4.Wag9#k#EK]^U_Scpzm@jl_8EDjfVz[,j[H2@tHCo2wQv;:K+TCsma^#GQj+I~[$1
*fB_VadeAu*>8M@jS:lH5>g|YK8NPd|iz>2S>MTV|e%+NbUg]PG30Hclb!2UfpHw;nG:%gM]x0Ii6i4pEO,hKDEg6eVtRF:k>fnr9TKtww[F
q(y@C+[hxC5M;R_*>(>w0^pR,V[#DAzC=:VsD2*>HR5nKWF6fea^zOQm&]4[c>$&<b)01s*%f#XS^~u>(zz~+hu[4l|X~eOADTf14JuHx^(k
WQ$B.%1c?UOY&w%C0J0aDr,GGA)|joE$%5%,LD|%;=Ci#THT>P<;tu$vk_51VK3qAK@e+@4utuRwV@wXY;Bt9JiP|#gdW&%bRpuweaPaQN|M
*i~q>Z$fzjr_]961[3MSnoL](rqW1s;=k9yLDexnt1Hp$0L]]%?FHLnSHM2~E:y0<!EB%,[2hDCHkhuSfUGRC^MZ*z%xIE)gj1z(<p9vG7=7
TDn5v8A@A%e_J(+4,BlzVY>?<u+RN?@f;?=obrtl:$|_2ArI^I,=*J0>uSp<gJ$b|$eN:n+AY,u*>h)V>aWrmJ])83d4=P;L!X!HcQ=ZEFR$
WnB|&Q_^Kd3lz+6!9b5&^g2bQu>AF4FXn7KfUggfeJ;e<3&O9U.1i5<H_k^@.V+<$fn3(>QZ<jIUfqqMO0aPthhn;.|jAq[(pwr.96nmN&YN
G;t2qN+C0iB^qqsW$J]PlIk;8N#*lURyvNYh7yS:,I^I]8.<uNOz0yzuwIn0Nu3Rx)gN$<A&:<CUU=B=G3WpA~K2NU$:[6SWhh%QT?|3d%ZP
=v1kDEY9J|SK>fK?1:3~Dn5KgE)2,U[jTmK7CU%duW7M8%KS^,9s:b.HWa30BaPaW&Qx1|jkceE6Uw@9:yzuR0=T6(eOPH1#>Q2A*@OD]=|B
K2$hwG1:<]62j&BNY,0d+alFJ]k56kN*]4JeHn6M=N:P_*RLt=hKo)F~Lm:nLbRb8F~SGb0W@s=(K4>r4lSjIhFkz]nYzSwUpS?^ozACxU<7
QmnG@Bm,O1mw#C8b=UwUblV(abWWhF6KY)T!q|daOIMf^QQ$PwKT@,Dlt2afdHC6CQ5p[!:e2w+U7y!Oi~>)#3E&K!)ooHrdW*b]XCAOWud,
t((SOhK9pFCQBAB(u%8=RWk:i02vJFtPjzIka|v>#A^,e.txIsl=.3@HQ[jc)&h[_np4lZ0:0R<;*6ymc0+4ghvDL>2;EP:.PcaCX*RpJTtJ
]|;(_U#_~Cuf87^_d|VNR0WiuACal<LyVhie&7,)axpaZQ>B6K*xMIX:*EJcej]:v45e&<qyW+CBP:08m8u;;JMmob@Nlm#p^I!0|oEV0[S.
+5R8b?e5q?uACdfS5!oKTUu=s~hDpQA33R4e>b(30VDLaQ3=Cqf<Mq,55|J6<&*63GG>ysIv>x1lBS%Y~yu1pv2!]RE~s6?B^)Oh75dlxE*#
<P,u*aETWFHm+G[HT8pYz:AT5.EHYY]<w)%uD.Ww=WAa(y7C:aD*aPc!jn5G?;~n(BU@:!4&YnBUjNQuYZ2+e#0n67lI~,aaG&vrn7oV4NaV
]8lUd#GoM4?cuQ#+FHlylj>Wxo0GEq[~3!T]25.Ux2RCLI!GTO[G&#s#Jidn1Y#c&2>t4.&Y4,@Cu?J=1ZO)Li*ofVsQ%IYk_k<2pN.,1*Lm
Z7k6!]F8*^?rcym[ss|T(.Ps:zId2%#B|,buMJ.>Y8Px4yn]MTpJn7vronoZAJ^R&>VjSUEy1Z5?Ws7AYb,KBee!<<iDd1%nK|vYLX,9H@5M
+0vB574&(4]Q.6z+0LknOgfN0E;_W[[3s4YH8:JLR=J81fD?$q.PNH@2Nm!sjNlY#f8_oA.c+_nOc%mq2N*yAx;<SIZhekDN5yB)@+61Lxi;
|ckxN~^:Q6u1j~(&EGaj^#mOFxKi1$KLb1:~U:T4l?s#Py#&rlAVQ+3B0dWrvN&e!t[j#mHS1EY4r;X%27(l7S|?OJaej[QkW1%5&pU0*9:0
Q?zz*hncoj1TaQWQE[>#2<vMw44QR~vKE^rEx4|;&B7$hg$Xw;m=0FUAIT(jh:4!b,|B8AXd!0~fCa.j|wj[BdUA264IQA2eZ82Zv(B(L~@w
g4U=&4o7GRo!rq|3Y7dKURLObb^M|A1Oh0!xBK&2~v_FB]%_3k:(H+D.A~43Hdn%tOfJxUl2Q*XHv<!+aTi_FV3#<5gN5m_3#RByo*|vD99f
gtVm1RY1My,NOc.v;~b#Qs7Ptp0^j;CLP6e2v*^frgh!01dyvII69a0jfQvomA6m:~KelX.6miQqi|ZwvuRQxt:kOhPeUDEhASTfn3+(mrXU
4KRQCh1xZkq*QGe;AA&EGj!F4^T$Hl+4)LdwYsQ_y_4<@M&gXp@Sg5!(lc*+RCmE7hq)_zusL)ebi2$]f0gS,ogg5DB3o=@8jbwb#*_o6.Sg
lbsxu8s;UcgdAf$ZjpGKhpBU#VW)7z6^:P<a+Nh)XVLC^b=s@]8#pDJH8,]*EDC?9tA>D19eXxPl~i:KmhGCXsacGu7,v?v*)?650f!z%ij?
ijY:xD8v*tHj]xS^:lK~;pPJpv!@8ql|tZ*uy5E+4SDx|ya|4;WFk(89KMmg^BX0V57a#,WLDNI6fD+8#fevg)zt%Sk1YRfqa*jS:<ROaug,
|G%Ir#.fTW#7a%0V.5NUkSzw~C~s!r8%C8JxB9co7cQv;EjZ@vDp@$MEDJX@*%R;AL2OC@[8H(b(oaqvOzFp;UX9.8m!,$~G#Lx4PIf?@yk*
7B&|?MzvO3z)pl&i0o2n~JOG|d>pF;)nUmjDeR^>t#?JKvK.Sf$:v1+AnklumNT211y4||RLsnb[|t0)!|AuNz?HX]X:QK23UL:!e?cpBn>u
a4leZ^#|]Ldq$5+DQ|]8~2@yHC*)tB3d:_<XAtAp0ZW=FrT;S~1~v?7xqmJef16YGhRY:qlV!?HyO$0<q)|~SBNPveXT!wIJE5ZyWN^gZqA3
%JWhKp5JLV=5]!gVKPz@.x?eHH@Mb$R,xnDh.KF.0[dS+e[mx$~Ee)SKmt|qlk5IA>q(COSJhE9SA7U.L8&FQlr$,L9&rB6D879jWQM|ZheM
b>lJ1r_mlUIaR66[6];P|s~43pLm:E+e*!0bNbSwZl.5g^GAGXgVyv%tL#E!W9:~(O[mT)9$[IS1R9zJ&b*29<CzKX<us%G0N1|5pk)Vw4Gi
qXE,C:gx01x>>GXz!t+QuW&V+rqsA,(^o.;]ICuSW*h_De@m7@[3JByHOAQ0@E6;TDN]!LUGVI$rc+h%wm]8|=1?$?q*AH(sCSDn~Y0&5U$@
R&hrW~kXJPl]?D4i)7mbdIU0>X)Xortcp8Dhje!)|h#_$Zx)I2q[<HV_%p?4M]rZadzBJ[J7?zFmDrRKMNqqdWu$EGSV%duS25~$>sEvmz;$
SiT%n|]=5(5s|B~b]):7KFb!et~S7Lz?uB@[@;nZPm]gZrXW&8OV^n^g.;v)YQ>~^Pv:3e=uu]+F9%pHJ,|)?cR&1d))hG#bE#)3#n9(Hqgz
AevO6A.vz!jbtD2X(cgJ7_wk):~73C;[hO<|#>0+pA;Ns)RDignW;5]:g8a1f)71PQXrLY>wkCJ|o!Z2>|_c2~z<Y[D~6!%r1rG^&sCqE9Yi
hG4F1SuaCYN%Z)+Yd!s)5AAz)A[B#zdzni(3.[!4&<dO+o3DV,G)*rPEkF^8)3%x?[%^6*p$tnLi+ZE!(.rGbPH8!xVpG_e)zc+ORigD!oSU
5JCS3j7kKZzQ;KX|tLQwhci2R|N[GnC.oRZc*Gh8!EF5]&I:|ua<l6^.5*@GT40G[Rc0y8HM>7)D0V!mIb@v&AfVl178e70RSDwg^2<(Rk%9
HVJ7)HN?J.69|1PnmZQ@|y.N)kr3@7g!Uwt@|C3E[D(U1n1K:lO=z~#Uge6|x_^;T*+qUg,T,a3M2?rFJ|~zlfw4s~FJJ.V*5@wNo(4=Q*.K
<L2C7]=,xTb>?s|?[9GLhGX=UtSQVZ]fqFjmF.eIaO?)E]N~gqPkWvdd.K7n[p4S7)x%Wc15d$zbb8#8unjQk4TgPNReGwAh0O*b<G5yt&6#
7bl=6),BMa>v2k$[Uxe#uu<?19Y(4^Dpmcy2(h1vihz8o<[4sx^MLfj8Wt:+xgT~$C!iIQsO7.AQxYmZ,&Tu#x&7~zL9<AEY;ODEX+5L+Wf<
%y:Be&&!(4yfc7H93K+VLa[K#3GT[0c6zgpdz^#u.T+|h5p!l;kcovc$)Nej4C+sTGPLqJGb)7FZRS,B1qFSner;OJ.8kv76De9M+bA92&9G
K)hu>vk@SI1W8MPL.$LWEK<i|uj*a+@39Rr$XkF!0MJ7y;2K^Sw9oTheuHH$Dj|0VQHMx]>8W%VP&q|(%#@E0NRY>>MY+<G0ck=6Fli!YV=c
pi5yzv8Ur@(T;yI#|cj.7vFH&8jHI;)wou$QR&)0;Ce7Yr^Nwl<D#BCdi3*Ame1_)6jo(K8~bnjI,<^)ZKToILho(her8$)&hXk=~&))6btx
fY(xTcTs0I&E:3dDq*=1>c9~[uUR!~Ec*!Uud?DG@BXo~:MAQ8MHossYOPXp&rFmbl%s5m>4M|FdJRIMTpd^dWFgG!Ng4m8=4?hhtH4@jd!@
5[MJMxc(!;*S?+[NPj~Te4xGg6_YBeN=q#S6.Vc)g|X,5_|@[dR1rsqj@i.O|57oTpMg),jGwm|grz*3%>2ik>4_WPh@Fv!$Z[W[%]58U3LS
3i*1#1X38K(utEs!x7=u|6I,yV<zdpfYh,$&i+BMUl1Txfjjboy7+1ez](8G4]MvEE9iy31t5U_MQPmk9]E<gO;l!Bg%#@t*[UM%t*7pMLqw
*OyHHyI,D]@dihWI#lHU_C%%YII@(wkmn[Nx<hs(i1sRK+Kc4~x,n%DHoc[JP|Zg8&.y;4M(:%4jZd,vQhn1q7kKjvfkohWOHH#Aih16S~$#
rL[$js)=$l,|Wr[dD+FiHeF~h>U@t!FFEelrqb:Qh$LOTloI%cmx;M#S_MajoR%1;J=$Zjm6>md=ewLzn^;9eOFoM30v~2np7p%K%~k0=)|X
12;R|Zz2SslPcV<Hv:X:|=5)*_n.P@W?]6:NS]@<Q8av8mVBr6R51GXzDp%db|y*1X6ID.P08Nk9[+X@B#KEaVhKv(2dV*^a)J#aMzGycqoy
^v$^*Lp|p!@84,:Ih38W9$[[)ZvJ;Wo=e<wxV_9L~d,fjPaz>#?FDp2buq0.gj5(ffrULz0Cw*M=67J;8IPwOt=Y;0YP*N#r*pMY6iC[%Dl~
3rb1_yo(&5BjO(ebyyXGyUcZO)%OQ5>_k|^LK*3T#XQJq&qlOj4xqX9?.$8UW*XiJSwuxjL@0Bw<KCSks&dPLAj<7m8e|7Oj+Rh=d25WLb9S
8&3*AHtjMl#,9~lhhNJD#cDKi1PP#hQb0!vK[;A%qQevbG*XpNcRGx:xd3bUS^R@$#V8GJ!OM3IEh<zIzCoDGbV@;&*zyn_a9=qi]:T7GamV
xlOhTA:Gn@wX$l|G5q2+^H3.SZy1q]9^aRBS@<C8r#pYk(wXzUG%lgv,TleCo3^(>o%R],|?6rSe0YP),EA:_Fs6ekQ;lH*n[sEVZ]omAghD
n*kSp>lT.Y%;*#4b<zD9Tc@:VPiS8=DN]06>@yPg7z)nexc?4;#0FbbC,i>cNVyg_Q05AW;95fpuhBXHkaM)9+?lmUMWlR^<p5L2Vs[<.Z<q
)V!t8*kk4j#q3MnJ[8]hxMrPDmla|n4$Hz[E!8r^T59gHPZ7Fx2wae3.*s2(:h3.fp;;BYXo$V^4^:bpJ1AwhTk,LWg;oI*O&+&q&sn&,<(c
eID~<Ea=az[.):1iJ>)=V|d_r*+|ziiWlwfI^ZBC_Nb@|9*&l3GRjN$uYlr!?4iS.fS+ytE_K!&U&TxLRG5LiZbRUX<<KaE79sfKdW@lSoQR
+KOT,W%y^4Uw5U](Lh4._:l)D5fs5f_0$OX(Gt7|jh@OO12g9$k8h|@kB+OFKXwC4n81Np@5CgsYt*M0]4|@d^K6UYA%w8N+G,!dsyZ?@]I#
WO<haCUIK!B86TdL[6yMrUsC;[KLZ~2e<(kSe2HJc0pjPT8iFyCpPWhZ*UsEC4ux_adv@&1n!)]7XaH>D!xi<BV)U^@adn3%qAxTDQeu?50X
|C^;l.6@O08,eo?GZCH*isYg:a$h:oDkiPhzGe0Y=VYT@R@TpiiRuRrBA[>k3q(_6%dpA0RNjK|qlcv:eSDIgA)F7&oqFm+l_&PNtJ_%Cfhu
e:xpX7@~<Cst*GI3B9z)n+o^fT9@Sa?tuV=2wP^nN:Nm?N%aCYUuhk<:96kM5UxS~M6!:yZN[Z!e6~,J%ivl12!d*zJ<C.Ch%]QA:g?6oJ=f
Mj66),QvVmg<*aMgzA_4u7%NnvPFyBsOmz6;wy_N#Uvo($1FqBcFe0>|ThIa0~V+cp_]KmEGFU@qV#jqOK?+c,A2Bz[B!=x2=Hg$!)JC3Ncl
D2qDn7$@23x!|o1e|qzJ6Fmt!*([v6&?Dk1J5T*G[>4^&<H*m.z(0,COy@c*OW(V8M$bZsq7Yr,@Z,1FSqR+QpD6bcf0Bv<VbHK#eVzYnQ]#
[cMnh*3)?&l%ET9FryZD4|y5:>*L],zm,BCXN<)C8Lo.|+c*d)5e|GiFs]V,KN>w[dfSuq1>nXH,b#eWPuyYMvT5^Jkq#.L:dm2]x^Mp]s<|
gmh7G_FaVa_I=$:ppO;K3G?vRr6$iY#dzn7b>lhM*(r0yDLNAoorHW4CC6?ACGb76&3)w1vS*4NtSJ@e+!2s0?3h_T@dTFdg%BeK5T6~Ir7c
U4!W7hQv~~||q]P|.X7HTZk@;1Y#CAeIF3ccRbwL*y$h0!@TkIkS~QBr<Z%V]WpRF;Q97w(U$#4p5V~+#ADKk?|8e+*#a~,EtNv;s1N#VFoY
ixU5Sm+t]~YW?=<@iYC8$ckEKr9XxTvY~Eif5z.~sn[*MAke5rlox7LNTYKxi?dlMY6P)B0r5jTsgk*gOO!qj.7q*XMnP*oS<e>]!,]w,%1Z
?^|0Ma3#&7|4d5Mm0xddb9S(lo3o[N5H4>v)o+rI|;UsuXwBQ#m|0H:&G)W,Zz@ll|G~dt|P@eFLA>0>jjRiA;2j=Jq=O3j<GH<0;o]dsL%X
s8n2B:@Td;6$lWR%AluHSatC0.IB;Tr@$fZzhrcF!&r]3xE[+uozBh[G$nL2R@_;kXz#6fDDzUlu$yqY!t^nzmT]JKrcog]X$dY^#<+uvxhk
^n4&rA8L[eUnQ$X]s,2?PoWmU%**w=;zrpE1gf]%0H[imHaYqcwA0NaxAVT;M^U;9I^FCK~L)E1*DIk_8a8yHglTjG#!F^%vEg7y~a=XzAS]
&Sh&18eG=n[TZ<BhV#mWGP%8.!4aF,5Wl*H(m9O@<z9AG,ue1DmH2%Q;,CYK*Gtpqd99gQ9vA5459w8$[zuCX=ne^~NsxydppkxT,Th@eTVy
^A)7WhStJ>FmkMrel^FD#Z*[CaJ;bNqbsvzc?Xg$d;esL3>y.i$!=XE4wTRf1kh]|$MJNq[%]@9d%.Z[F1A?kZQ,qsOBlL$8NGiZ^OoZHBkG
[xwS#@oYNtt|?@Dl,)R9$B:.@^e^c+c<vJeumhj&s%[X.E^rtK|6aw)&fk@3<,2Abw*y8y_H,tB&gtUjeW1)C[2bmDd8<yU&op:faY^Pjz6)
HhZ?=m%H9Om()x^W6K9$a%exk]n0vtL:&)#6MC?F6wug?u:|P?QYS.xFj3B9A(aWqY+)Vfns5S5fJO>Z;M_XAny%x>m+|,kF^eoF2mlty!Nr
rjfGSBy&WB8YXnl7_EpR4l1YF^=,0qv|unPQDkgn+&bh?Hu^2Cgm]bbI+Rmz38U~0AQ*c[b0&u[I2a~|J[;CJHAuIrcX3hZFP(M&kM3fPU>U
AA$!O38~^g<z4qrVA##cR1ur1,jHJzG)oiC^#;9H^#BloIEN#q3i5KMW~3%Q&2obZovEo#@w$uTD1x$dLG[l%nt<ROe+c<+4xM.z*tZ.l<Pj
Y,oz.%mq8aP)xnuI!4clIMzoRa|0qL<|i(:02K$OXn>eaQBV0jg?3S0lHaM]Xm=8BOcmy|<n7qy99bpA6Dp429B@fxjua!jXX;SB>cTnc8sf
,&G#v8P9^If^VYCa%<=.DDT<Ys=kZC6ygI>wai,VC0m)e)K,[$NwzS^3;b:4K,qzHiTR$=S!S@:iRF&^@Ip~2*^nC_~I)VtRVsalGa4autO.
kCZIdsG=vx&=BZoJcBtJG?Fm:iL<S&RyxuCz%8ZLGY*Rul!2fN!eBZ.7dMa4InM4OFu7jvEAtHIyj_(k?6rsWPs3jMnl~!v78oQxll2ZuCcq
H|%)1r]HO0n$]d;J.nV^5Zt5P[CO>n2Hze7EQy?Ar4<:![4oLFF5%I0v+X[]:x%gbEJz~NfFo$yZBDC6lA!Ko_Ku#)#CiF<enOzh;+,_:B^Z
&|mFHaPQZzkahqB262Aho1]uG@,g80yDzSZ=h~@mlTRcV*B7SI6F.+t@,rYglUw*IQIcrOP39=C^<*9ue@$v@.pqy:Td$b[.FS9JF=&S3OYz
)ay]m60s&>W#.tqRhA?V(WL_@n#_Yuq)QF&<jL4b~o]l:$sG_!GklLY,:nW&#roI(=nk>V<M,GOSpXw5q3_.DKJ38>Zw88X4$Rl8L<(xaxI9
S9YOtJIL1<]fV8M4wNGikT!n*f!NRputb|GTpPzc^RQ9_nrXsP~(t5Jcu?WEY0.H8a;epQi$IuJ~!GV=0fR<sJrTT434]P1j_=eOLf!*vDu3
:0l.iqZ=Ru[jy3h6SFBv6lk&1y.%Q@3#@Tbd[#NxyXp%)=,w4wr&$7&gG2,7z]9VCmC%6_6?.D^V!6Rue~E~#m[DCw9E_z(9VUpgbYaGw1TI
<wR~9!6alf!pQpjtp#iwt9#%F,<y);ckjw(M)U2sQ$TpG]p2@VhbLz>Bd_MVK4C0o(!LK[!.SAf(DP2;fF;AE2Cs8:_h=xiWoh.a&]QFBHGN
9)>@phdziMO!A(RVB^Tq)a1rT,.]]4]AWLpu%b=T;)xE=5%QZ)fBe=zVcJfeMzK:Oc[L@,K>K7|?$ACA#W1a?=kJ2U$s5FmO1vV$Pm&&bKl%
pT!%LsK.am,jm#_z_3]NeR_.ZsOyG]&I^Mau.KuwCWxhi[+Y.&o09D6+V~ku$#iTOYam$;Cd.T)K%erA8Y_+QjXN,,B@dq,xww^~>,eEv]9z
[y<#FP[wz9c%vnfl7LBx7.~$X9ZkS!sC.s7Jg1csNc?8wjZg&z=zAtI+gcHrG]<jC@Pz41HM3]6.pp&:VR.?Azy?DF,u5P.jt6<3elUwEYgb
KfPEcj1Q8nJK!p2(KMUj<b*rkou>o^p5.2!YO((10fytA8rH$C%uVLBjwcQQ:qTX2oA+_QcSi:kAEnOwlf5JC;(J]UIL2Yp~gsSUHC$9ltK(
[[SIP;@E9<t495mg.S0H|rj_>,.elvAcD+cBo<_Ai*a&!|b|Fi??:VT)Oq^Sy?$9&)yo0iiXrQw0.V,f!9>UW6&6DEu?T)&rws1A^5_+koFj
roP4oPw*D&G@iJbm72$DNFs@#(D5L!<Kpmz~~*w|1*%)+T2KKC|vOhL%eiB]T:|RUj?VoML(3CYRq)J&PDJ1?rLvBn?jHNB[5Rz6[Gak(842
:]yVRJKH:*HFB_261L([iNmA<h!@|.6n0u^ITG*X_fWdpY#e(+(DKw3niPKmI1K7^W+_Gm8k6Gv_.5C%;tJuKxk##u~Hi7biqi6im9:M^1,y
|g6)nfu>DrE])(Tajq[%$oU_hXOQ#M:y;.AsZ>wBoN[;2&Q5;odDrZ#ITdKW64DSHMz?%]u0ZtO7>tH)!Oz#xuX)ohrB@q>]Y455sbbhL@^G
($FGbg,nS&xYvz(6J%pnD(XJ9YudvJxtr,m[AgLg=Y0pnrP5$bLe4,wjxQhj&(1i.Nazwxbq)9L[4rn@Ap2!L;9RFq9b+Jp?0i,loO&6m&a;
&G0QHCzrh=pp<Uv,7O0=m|xonN)sRqzt]Jhm.t?t%_I8w~i2Q.;7^z>EDyThg|oSxhA[o#T*8k&msHgECg]hKZ=>?S<HhS0[7RIrKjrU.Kwz
^~>4#+^Dd6S>o(HLf#994=thqs%T~wian_~I3L]bG[)&e3D;dF1SV!6V%E(eJEw,|5L<?~w:zzt#gqzz+(pBT_c;<1$amjLQ4M&0q)ZJv:K!
qc[0peW)BMi<<>#Y@tD47yR0)FwcKc$7KQ[m52AE?rt^!3PFk8<NapL2.D5+O[;(Zf~lN*EKx7,$o]QAnq.MX$A7Z[sv0g>i_lMP31PZh)U.
gyQs$_rWqxMp2EhS8RS6PZfs<X*AkAlpxWad~NvJ!^?4I63aMZx;pQE8z0QKX,%=kRNkFh=|7!9&f;f[Xjt,)U(r3z%ql^DN7S@WJ3Fpt0,5
2;.]D@16hAO:JjSSKnN?^;SRV:S9Xik^06Aef2PVqN:8h.n9saG!5C~]:]W[#6XEC5o#bCpv1#H]hfCUitBdBRvTPij?@8yjV!oRQ+~:c>?u
ml<[+OHS>^kQmmAk_A<7_YEr4_>PUX<88vm.*(yy*_T[N.y]h7tQ,AM&nMM>KMnCG2EXB_@b4YQ)g%zwWr5=ckJFbr&zyEw<GzeWFLy9?2F.
)cG8l@<_lt=)PD,d2V1_&A9HQ))j<t($(2j1z>B>]*32niEqdvLLGShJDou9(eyFfbJ109URzmoD[z3nFgE,wF_uhR6#%z_a(6Fy6&f]ld[D
[)bFCwE~;b2G4G8|sBlmc3z:PgzFXaw7c**mxc+Mvyr:XI+3yuuW?);@9kHFB$:fyLn>X:3.2jHfbx.&^2:f.Y.T%uGAlGNlv,BZR9z1[I&^
]buHpEJ0nNzuL<,TsiyREkme5j9VRs.x6v+#kvXsV6,<kQ.mYL$kPZ&![Gs(4tJ]M$rsdtiLhZXX~nqt8a%)@HDE|nasY9DL.q!Oj_3k8t1w
VX9]|m=J&Mw@VI3d%PX7e.$Hb+JzRPad(HNm:aUlbVJ^Sf&Id&m5QuL4uq$@_(@cDJ60d9=h,)+C>*[)0qE=s14zo^P0MCYU7ocNpd4w.VWH
9E4ytWViIpMmCmXXd6)LtWlfVn1l[(Ha2y>u!*M+^Wdi1RE6E%KW6be!|B!#mqIY]1yxh2P[>GA<wc+#@RfO03dt@LC(TQ5F]o|Z]5%Dl5yV
niKB)x?m*ech_6cevZM88([QY?I0R%a[mxehgB4pn#yh3SD.ORQj&by*x=t!6z&rCsYi#O@~5eN2Z?>Opp@A*1=wx2QXR7(Kli1aokwnRVMt
3=gqhCATB=7xw?EWY7*?&<jTtMK]xnhVvv[Gx.?30b%ugp3E)db5!)H|#2_tSlVMjBTMnDCafXs<jV&Hyvpbzs[Odp>@OAqFxBh8=5T8in=U
zH5ztOfU,,r_PP05c~kmHBcG,^3xiVugRH=@GioG3U*=?kQf:]w@FU59]FzgPNTnL)v7RNsPP;rCdCvz0ks<$E)C$n<deEm2r2%ZIAkBWTer
l>F;)5@CF%3H]6V=>ZC=*Y^kuh@]x^m#)7jWyQe|qYl;>J!,rAbg6BkE3!PLYm7.]*>Zuw?bib@5OoOFjIXD:~$#kLc=zg=AFO6IZBd&!5Qv
o6aMYnU$^)$]q!A[6u9lP)VKJ4)LZH,:ynvuB8$m6>llNY=g~8lb7=|NvW2YQjf6t]ZXxRg2VMws,2G0^*Hs?&a?[7|diak6Y(#bDLP5=pWP
tEIycg?EM#ET&M.PNxHQQU2vTVAPreH$$JY8]n*CE?ZMD[TctxZ]]!<*$D*Y9|S&u2%+6&+wn]WYf|3trH)p>YIjk_hDA5O3<*YZhj~z6Kc1
gYa9]))tuu7>_DsmXlQiS@:,wUxY*zb^|YVatkm4|#]5p)#_h<4,vP+ACji|M)iC:G)XZ?7r|gv#:GfQ2m7A<O%6yyG6?e?ne?h,A7^!L0]%
sqwCufNBt_+0owKa=PJyNLMmD^n@OqDalSir~X<2N>*Aw|vVmwWZ$V@<92Nz*sZ2DcQwo7ib?d,Oe6$YH=M%,0k!VMipCy*!)]5B43j<W83Y
cJ!n7RxS)E.S2jT.=!^CAe9E3t]@lI=c.QlseyX$@>@oSFNed$*<6a:~*8!*WwjUhfu!c7PH2;8Ny(eUKeAU]Fs$X;uh)K||z4FvV7ApjEvJ
mm&,&iu|gQSX&sMEsQGM@9|bqIRY_.!%w_AN6G.0R@pDFaD(rMW0ajzzO5A4EZemr~Ru~VRk>Ff+k^;wiB67(;^@S%)U~),+2!B@RBP<h@e|
T]5[c]|7x>pD<=IN)*X]snwQstUVAq$DeP6gZ:V#x)|Dqiz?])5X)COW0qQ8Cm!bz;=QMRWqR!;[Np[0tCIq37Us0lT4QMvzJ~C#U4B?:Y<>
*G@mOSyIN_c9g0RqoE:?!f55U#iN.D2>^<h9*0!!2&pQ+1$KYd^|Nv~H78Tk1ug7ruxQ@=HU8:)#q7:+739,T|ZjeN*vWeT~%cqgKKzhZ;;c
XHhaDR<^Z4yf0%n.G$@xg37=03bGD>R4^MBG**s=&[_DP<d;N.i7gEPF@Pjqv>^agT[A7zUpacOy7Q!cZA>+JY[u%wSdE)0U4gy6GS4.Qid3
ewZGT#yZNlLn&O,hKXsop>i3CTr:B!y(Z7LuJDqs5a!LY]GZ5^E^Q<>L7KguJK%szn0VSL?^5)D7[a^a^iZ?Lb*5>iS$e~nyKmU+3Np~ytNH
Garv9ovrOF<LE8Sa^uv[ze:w[g%Gk%Po<b.<Omdi:Qr]Wcx23gBjRfLc:_Ak^tUV7#!Pv6f?s,>8i3AU.Og(!6G7O(OsH^cyN~*y?+!^?y|,
tZNF9G^xzyyh_^8U2O<@4fEkXDbpCBUKEt9]#;BXE=xV!9e>lP^,gr_]a<ijVf6M&yA2=&e(7xePHko:$wguwCP,7iGa#3y_ick2m*^dJ<RN
T49=V+UGaZX%*DR4X?)6#F8UgZGs47K=eq63X~@+d5lpx7r[V=z[W%OX)).1wn0I:vcKUw?FSx!I4rMQsTp*Y#LZY6;3]C;;V$gkw+I9L$i)
Yx%X0M?hBlgHI.(9V.<^8$dD=[<QE+%_tfk*%FowC>LW.6Xx)|n+)&v&*U!o1:GB.F73My#JVAr%2@x2.|Svc.VEZyr<KB6RQrKx;[eR.].k
rAl4Np_CS#KOZqDUE3cmZ18jyRvte]JkgrmD@a0wCisxa=YjKu06K^S<fak4E&^a%3qlqkBPDc0xj;9|VU*Q[wM9o<DjeS&b3Y?uD]sCnrG!
!bp@_Q_P=EG|vp[Au.66&<Toa86?$5?fc8Q(wiel5#e9PJdQK<)&:m1@.+SeV:V^Q8?Q((QZ:%.~?;8R5W[HC=eb:kL;Ti,+_DaFw0L9bi0e
DksR(:=p$F1bi%*0MNA3ayN@59yD$zehb9psc7fYRxp~Sm$KC;jFZCgXAat!NUXBiUiu,$jeJVX2P4yk_d=hS$1XJHC0T7U,#83G(HaH,*Kp
)pk&,%7K+=t)W.eLB5#i+DD[lUlZL8RL:30V9!o0oA;j98P=n+s$SeKKWm^t^Ua(4GA?65;]BBn<_e9@UQ#dD1iIV7d_#v9F1vaqbrSFd%)?
]=t(g%dr,qDA@QCZW80!Yy0!.Kq]mu$60*A?1Pdrd&hzG]ug_Z%Oby!1xw0n1I0z1zu4huN7_,GM_Jdi,@nC(?J17pBNvC1wuv0ff@KvnBIW
$:tLyt@36;quxt6<3WnbAo5i9=%t*+6@XTLA)xMU$0MrEmQISuop+@:WDeNLzyV9D9,WN:KnX5CvbLDF2N2%~5^)Vr0[F[KC=HtPXSC.I!Xp
13_)1e^[_H_CP>U+b~m1O.y*27n3D7f=xx!6_)Qn;Z+.X+E0c6=K88P:rCJz4g7?~ODtk%|Rs3Z^l*D_^6O*z[b|abNihQ?*ux>s2|xOO2N>
%(+4S)PfFIdH.40ksO.(E~#0(hAYJ0n9qD#47y7.pPyY5EMT&9]x3Ji5vvaUmYS!;AIV)9m!hagKX|+hz3Ux1n@.~I08V!,mRI>s:SK58&FE
K[<@f@]56ZHjm1)s)0MnNYERCuy,p!2P%Tt~YkYHG3Cy?P4EU(ZV|25i7e=s1_uyW0vtkLgH(IL]eSR]TBp*1BRwwV%Xlz(4MowRi<uL@p6N
m2YCo|[38Pfyz.8%x%Wv8)$3(#rI|.=QQOEXw6;3B89Q)7h%iZ8|)L!Ly[EqwVmK?*eh%w,>ve;q0:b<c4XPF<IOG@_0f4+jwL@fxwEU3Vi7
,=%8FOZlKiga3_WeBI#iPVzCov9$9!QZZ5(wSd<gxTB~d8v:o:Y7[tS?JnSJ??Dtq93~O3mnPc;C?Ff:YG5E(?rg&TBeXFXt$!cWN~p[1vm;
bvG_E#,fs%MSEN:c,eOB$5(<A_1Xe5B)yS<~^QLhD+kBmtT1HwnDvWSLundRAbw*?AO2Ihg7Sh;p]1Z(Dk]JQ;Z1u7>XpNIJCB(H$4fet6S^
2|VyrNz<H!$%2X~&Ze=&9?KAwck.J|_hDO8EM,Ls_G&xOq$$<l7$>d?LAuGMsp.d1vcrOVfZKfD6c0o]zt24&YDwEJ[gn%T4T4]Lox%~wKUx
z%jcyO7v+)q#5rdgnvopZ@A;!mZ%D<+oG97t0~m<@#pFy,hthXH243S?Lm<:fWUr(6N?446a>g;Yo~3(wfS_Y1@!z<G47ExPoJMzoT@Rde@e
,a,NTN<mx*jg8wf6M%:An3Qp~0Kvv2,^~Vx9tQzdv&tsj3+l+:v7;3&pa8bo7A9@StNL=IlZt=_0vWM|k_F:*N%qBpjmQIah+4=:BN$wg)__
!yjq702wOpHlD)f$f:Jw@D&&.C&5t$JMaAz|:Kp3>_2ktcM890TdnJ!VkW0c1Zi)6mgBO3?$3HIR>J.TrzS|z05:7fHb?0_1pJMIBs(aQ_0n
1K5sbLUmUo*I_eH7:b^no~v<*,Rij.@Sm@I~V#193chXm+iQL*jf$eOMAoD?b#NZj;7dO&2tgI~x@9*EltS4FO]@XL89vjP(Ml[]th$Lh#Af
9O_kKX+iCqM5kd!_JgSUn&(Puv=DV@],e&OZo>;1+d(<XVzd2,>ei|>gLe@!xj6b.YNI~njgeTaS?tTtq<2.q+z;y2Bw)_TI.N?q.@KNDsX_
fOWNyi$$gz<?bn&1yKxrf1V(!^=B>q%=[0#zH+:8(]&,ce(ai?Ro&tnY8);*9U),T&?|y:J#CY;Unf_,=i=+!;Hu&J[1K]sGkKmO26xfN+z=
E%e.S$Q+dx?Ek.mw7PQ6O^Vkz4R#?TD,ly[5qme?AkV9~1,Oz2VS|rL1)A;1MzG7u1ack3yj;aUb~4G4C5*_lWNp|iHQ@HIw.k?e6|_$EAAl
aaj+^x~vXUvkIv]?0(a+Af.wy>ciD?,9?9#uk&]xfO[kmfyhEhxTl4YruIc]OC@,,GUetpSd?Sfg*H]I!p)r28vr$a.fZx^*=)H]>nT$yDy0
T!.Okb.eY)2Df)5U1sfa!NF<hD5rnZ3Y16[Mk79OhGz7?Tr0FM?A;KY0>Lw1^P#lo9gjU3=ZmV%bF64R>;>~Uyi~)w&H64&Ae@#>DZr?r%]2
G]1u0@Px9ud~B!Vh4B~AoEiJ]dRtYw!fg9k)twwccdc01U@g1*N>5%~Jt7)zr^VyC2Yib0o$a?(yQt#6J0RFp,?):~B2*#]H(b%;,Iu^1_hC
6f9bs+A8ljePV0ExH(xUt3G!S5Sj#oG=3Mmq]lQ9*9E!]v1fV#io(?z,<#WPLor%^SMI3cO78Vwh>TD?UL~0$bw7Is^MOJ[T[@)8!eJzg*DO
5+D@BM)p87O*pe?mgRfi(<@_(YgBsaVwblEZD$D9Af2,mIZ[0FZnmQZPI|YmCr[E+7=qZw9&7UiL1>[Jc1]v<vfZO!r@uXo9,.v(hGg+^9DR
k&jFbprmHPK.IT3ZFc2q9+%Oq6nv%<^w=zQY3gK%)]RfYO?]@m|(f4W4:EoUL<72Q=RtMgqKv6==RlRDy~7rC%:;[0J._qTz*A<y2PL3Z0%_
<^3ua*~5Gcq%(??N.%zbayKa*]8ovvC57hpyIH3zLzxLdTB|Tl!4PC~A[~MjOAJB^pVm6)G&|q~)p6P>hYx*DzWEhJm#*8Nol|nt+WkfnCm,
wrNM]+cmyzdK1TZtgI6>Q=v@MD=OrIwVv?W6T;5V&iClvXM@=&*]Ja%qF&R;at*_2i(deXKOE@Xs5tnvjz@!FXsiMJ[6L~JnvuJaS&=f*kZj
p76OH?vDV7jEIN]kX)Fp_e2AX_hjz|jt~EYc~g?|Mm$Fc,If(JBc4ADF_=t[4rypHh|CGt#sITJJd;Fg,hjhhQHWJ,E_fvVKC94J(Gh|mve#
Z0>;J[>r%0sTrQEq8KjoNp8o~]M<H?&^oMJQYt$LmjRcjLyjAQ!5^uU3xP#0l%rf]D.s5PB^1jZ#I0Y7~)xkw:KlBj5.D1wBB=KOhm78B7Pc
fui;lzcwaVwk0QJ<+X%FJ[V=mnXnK,=%3f+Fc)AkW|o+ggHZADMf<hb;W[9cTIgL=]NC>z!85#:=REPKpy!fPti4Dxx[ATZeMywp4IR:#~oK
R?q^PJzk]odMsw=]?<j=AYCF0%[K8dVG)4$kV)voZEUK7ZuHlX#oCoeDae,BiBJ>z@%essuB2NFHX64yPmow$_yLg0xIp5=k1xI2Xw!be>9c
P~QfBamJcc)(z+~HoRIpI^c:cLkypZY~U?1f_hrj8)FB!li%H^_;ZVrj*FABFr>(iXqQ)nD>L0bB7I>KYq_VF|0t!xiHa&kdqfp9lC2Y9)E<
G^alS$4JppdU9(rI7j0J%j~Q0M&oMy1N#ZNn1u1k8PYQCv0Y@px8^mEQk,Df|cBgW[t7Tv7ONeW>>IN)(nvVBc)(xZNM#[TGKy<j(hejTOK8
A;BWTU~:bGG#g.g$=Ue&_&?$]*Igtw00CIHt7<D^%=:@ex1MKJImHJ7H*CLZ6gL8<qTZ5CJpXIYMF^xHE7:~q$0j|EG:=V8W1L_6[uOPIXZ:
PX*i,q%l|&mX*9zY;>gJSekg|N$_=u&Pop6]@(,>d_2;:0uw+yPv__U=m+!tu!Fh$sKZhhH7ccJeZ~axA.Oh+%6gNz0P]!jQnhTI(5]oE9XK
2P]nF,pyA0qO|hEzprI~(a+@cyZlz<EV6n!0jOdByw(J1x3+$:)W0F)5@.%BG%[B($GoiJ|vrwVV=MG(7$v>4yCp$V#HvHJAd[WNO.0w%lrj
5kIvIr%98RXAy$T!I0Su:>mKVhTd2<DzL+I_KjbjCdAJlRso3OmEmr|UKF2u;e#j35uXMp@Xb*)4*KQC^[SzIU:V.?+SZRvI|T;iI@0~]O.p
^mk"

end TemplateCompiler.Text
